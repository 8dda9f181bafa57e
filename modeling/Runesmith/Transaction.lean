import Runesmith.Bytes

/-!
# Transactions

A transaction spends outputs of earlier ones and makes new outputs. Its fields are held as plain
numbers and text; whether they fit the wire format is decided when it is written.
-/

namespace Runesmith

/-- An output of an earlier transaction, named by the id of the transaction in hexadecimal and the
position of the output. -/
structure OutPoint where
  txid : String
  vout : Int
deriving DecidableEq, Repr

/-- An input: the output it spends and what satisfies that output's script. -/
structure TxIn where
  previous : OutPoint
  scriptSig : Bytes
  sequence : Int
  witness : List Bytes
deriving DecidableEq, Repr

/-- An output: a value in sats and the script that guards it. -/
structure TxOut where
  value : Int
  script : Bytes
deriving DecidableEq, Repr

/-- A transaction. -/
structure Transaction where
  version : Int
  lockTime : Int
  inputs : List TxIn
  outputs : List TxOut
deriving DecidableEq, Repr

namespace Transaction

/-- The version that new transactions carry. -/
def currentVersion : Int := 2

/-- The sequence number of an input that waits for nothing. -/
def finalSequence : Int := 0xFFFFFFFF

/-- Does any input carry witness data? -/
def hasWitness (tx : Transaction) : Bool :=
  tx.inputs.any fun input => !input.witness.isEmpty

end Transaction

end Runesmith
