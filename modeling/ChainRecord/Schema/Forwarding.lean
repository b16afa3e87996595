import ChainRecord.Schema.Base
import ChainRecord.Schema.Tag

/-!
# Messages of the forwarding module

The balance of a derived address is passed on to a recipient on another chain.
-/

namespace ChainRecord.Forwarding

/-- Forwards the balance of a forwarding address. -/
structure MsgForward where
  signer : String
  forwardAddr : String
  destDomain : UInt32
  destRecipient : String
  maxIgpFee : Option Coin

def MsgForward.shape : Wire.Shape MsgForward :=
  .mk "MsgForward"
    (.cons 1 "signer" .string <|
      .cons 2 "forward_addr" .string <|
      .cons 3 "dest_domain" .uint32 <|
      .cons 4 "dest_recipient" .string <|
      .cons 5 "max_igp_fee" (.message Coin.shape) .nil)
    (fun (signer, forwardAddr, destDomain, destRecipient, maxIgpFee, _) ↦
      ⟨signer, forwardAddr, destDomain, destRecipient, maxIgpFee⟩)
    (fun m ↦ (m.signer, m.forwardAddr, m.destDomain, m.destRecipient, m.maxIgpFee, ()))

/-! ### The kinds of messages -/

inductive Kind where
  | forward
  deriving DecidableEq

namespace Kind

def all : List Kind :=
  [.forward]

@[reducible] def Body : Kind → Type
  | .forward => MsgForward

def typeUrl : Kind → String
  | .forward => "/celestia.forwarding.v1.MsgForward"

def tag : Kind → Tag
  | .forward => .forward

def shape : (kind : Kind) → Wire.Shape kind.Body
  | .forward => MsgForward.shape

def signers : (kind : Kind) → kind.Body → List String
  | .forward, m => [m.signer]

end Kind

end ChainRecord.Forwarding
