/-!
# Pairs in order of their keys

A finite map from texts, as the list of its pairs in increasing order of keys. Texts are ordered by
their code points, which is also the order of their UTF-8 bytes. A key that is inserted again takes
the new value.
-/

namespace ChainRecord.SortedPairs

/-- Inserts a pair, in place of one with the same key. -/
def insert {α : Type} (key : String) (value : α) : List (String × α) → List (String × α)
  | [] => [(key, value)]
  | (k, v) :: rest =>
    if key < k then (key, value) :: (k, v) :: rest
    else if key = k then (key, value) :: rest
    else (k, v) :: insert key value rest

/-- The pairs of a list in order, each key with its last value. -/
def ofList {α : Type} (pairs : List (String × α)) : List (String × α) :=
  pairs.foldl (fun sorted pair ↦ insert pair.1 pair.2 sorted) []

end ChainRecord.SortedPairs
