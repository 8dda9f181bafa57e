import Runesmith.Proofs.Completion
import Runesmith.Proofs.FeeRate
import Runesmith.Proofs.Mint.Spendable
import Runesmith.Proofs.Node.Error

/-!
# Replies that baffle a step

Funding, signing and relaying each have a failure of their own, and should end with no other one
whatever the node replies. Three kinds of replies get in the way: an error that is no object, an
error whose hint cannot be looked up, and an answer without the shape that the step reads.

* `Baffles` says which replies a step can make nothing of, given which errors and which answers it
  cannot read;
* `EndsOwn` says how a step ends: with a result or a failure of its own, or baffled;
* `endsOwn_fund_and_sign_and_broadcast`: every step ends so, whatever is replied, and is baffled by
  exactly these replies.
-/

namespace Runesmith.Node

/-! ## What a reply is taken for -/

/-- Replies that a step can make nothing of: a garbled one, an error that it cannot read, or an
answer that it cannot read. -/
inductive Baffles (badError : RpcError → Prop) (badAnswer : Json → Prop)
    (reply : Option Http.Response) : Prop where
  | garbled (h : isGarbled reply = true) : Baffles badError badAnswer reply
  | error {cause : RpcError} (hreply : reading reply = .error (.rpc cause)) (h : badError cause) :
      Baffles badError badAnswer reply
  | answer {answer : Json} (hreply : reading reply = .ok answer) (h : badAnswer answer) :
      Baffles badError badAnswer reply

/-- A step ends with a result or with a failure of its own, unless the reply baffles it: then, and
only then, it ends with a mismatch. -/
inductive EndsOwn {α : Type} (own : Failure → Prop) (baffled : Prop) : Except Failure α → Prop where
  | ok {x : α} (h : ¬ baffled) : EndsOwn own baffled (.ok x)
  | failed {e : Failure} (hown : own e) (h : ¬ baffled) : EndsOwn own baffled (.error e)
  | baffled {cause : Mismatch} (h : baffled) : EndsOwn own baffled (.error (.mismatch cause))

/-- What has to be known about a step: each kind of outcome of its call leads to such an end. -/
structure Reads {α : Type} (own : Failure → Prop) (badError : RpcError → Prop)
    (badAnswer : Json → Prop) (read : Except Failure Json → Except Failure α) : Prop where
  ok : ∀ answer, EndsOwn own (badAnswer answer) (read (.ok answer))
  rpc : ∀ cause, EndsOwn own (badError cause) (read (.error (.rpc cause)))
  transport : ∀ cause, ∃ e, own e ∧ read (.error (.transport cause)) = .error e
  mismatch : ∀ cause, read (.error (.mismatch cause)) = .error (.mismatch cause)

section

variable {α : Type} {own : Failure → Prop} {baffled baffled' : Prop} {badError : RpcError → Prop}
  {badAnswer : Json → Prop} {read : Except Failure Json → Except Failure α}
  {outcome : Except Failure α} {reply : Option Http.Response}

theorem EndsOwn.iff (h : EndsOwn own baffled outcome) (hiff : baffled ↔ baffled') :
    EndsOwn own baffled' outcome := by
  rw [← propext hiff]
  exact h

/-- A reply that is not garbled baffles a step by what it means. -/
theorem baffles_iff_of_error {cause : RpcError} (hreply : reading reply = .error (.rpc cause)) :
    badError cause ↔ Baffles badError badAnswer reply := by
  constructor
  · exact .error hreply
  · rintro (hgarbled | ⟨hother, h⟩ | ⟨hother, -⟩)
    · rw [reading_eq_mismatch_iff.2 ⟨rfl, hgarbled⟩] at hreply
      cases hreply
    · cases hreply.symm.trans hother
      exact h
    · cases hreply.symm.trans hother

theorem baffles_iff_of_ok {answer : Json} (hreply : reading reply = .ok answer) :
    badAnswer answer ↔ Baffles badError badAnswer reply := by
  constructor
  · exact .answer hreply
  · rintro (hgarbled | ⟨hother, -⟩ | ⟨hother, h⟩)
    · rw [reading_eq_mismatch_iff.2 ⟨rfl, hgarbled⟩] at hreply
      cases hreply
    · cases hreply.symm.trans hother
    · cases hreply.symm.trans hother
      exact h

theorem not_baffles_of_transport {cause : TransportError}
    (hreply : reading reply = .error (.transport cause)) : ¬ Baffles badError badAnswer reply := by
  rintro (hgarbled | ⟨hother, -⟩ | ⟨hother, -⟩)
  · rw [reading_eq_mismatch_iff.2 ⟨rfl, hgarbled⟩] at hreply
    cases hreply
  · cases hreply.symm.trans hother
  · cases hreply.symm.trans hother

/-- Whatever is replied, the step ends as it should, or the reply baffles it. -/
theorem Reads.endsOwn (h : Reads own badError badAnswer read) (reply : Option Http.Response) :
    EndsOwn own (Baffles badError badAnswer reply) (read (reading reply)) := by
  -- A call fails only with what is reported for its reply, so these four cases are all.
  cases hreply : reading reply with
  | ok answer => exact (h.ok answer).iff (baffles_iff_of_ok hreply)
  | error e =>
    cases reports_reading reply e hreply with
    | rpc cause => exact (h.rpc cause).iff (baffles_iff_of_error hreply)
    | transport cause =>
      obtain ⟨e, hown, hread⟩ := h.transport cause
      rw [hread]
      exact .failed hown (not_baffles_of_transport hreply)
    | mismatch cause =>
      rw [h.mismatch]
      exact .baffled (.garbled (reading_eq_mismatch_iff.1 hreply).2)

end

/-! ## Errors and answers that cannot be read -/

/-- An answer without members. -/
def Shapeless (answer : Json) : Prop :=
  ∀ members, answer ≠ .obj members

/-- Are they errors, and cannot be gone through one by one? -/
def Unlisted (errors : Json) : Prop :=
  errors.isTruthy = true ∧ ∃ cause, errors.elements = .error cause

/-- Answers about signatures that cannot be read: those without members, and those that tell of
missing signatures with errors that cannot be gone through. -/
inductive Unsigned (answer : Json) : Prop where
  | shapeless (h : Shapeless answer) : Unsigned answer
  | unlisted {members : List (String × Json)} (hanswer : answer = .obj members)
      (hcomplete : ((Json.find? members "complete").getD .null).isTruthy = false)
      (h : Unlisted ((Json.find? members "errors").getD .null)) : Unsigned answer

/-- A failure of funding. -/
inductive IsFunding : Failure → Prop where
  | intro (cause : FundingError) : IsFunding (.funding cause)

/-- A failure of signing. -/
inductive IsSigning : Failure → Prop where
  | intro (cause : SigningError) : IsSigning (.signing cause)

/-- A failure of relaying. -/
inductive IsBroadcast : Failure → Prop where
  | intro (cause : BroadcastError) : IsBroadcast (.broadcast cause)

/-! ## The steps -/

theorem not_shapeless (members : List (String × Json)) : ¬ Shapeless (.obj members) :=
  fun h => h members rfl

theorem transactionOf_obj (members : List (String × Json)) :
    ∃ found, transactionOf (.obj members) = .ok found := by
  have hmember : (Json.obj members).member? "hex" = .ok (Json.find? members "hex") := rfl
  unfold transactionOf
  rw [hmember]
  cases Json.find? members "hex" with
  | none => exact ⟨_, rfl⟩
  | some value => cases value <;> exact ⟨_, rfl⟩

theorem endsOwn_transactionFrom_obj {own : Failure → Prop} {wrap : ReplyError → Failure}
    {baffled : Prop} (hwrap : ∀ cause, own (wrap cause)) (hbaffled : ¬ baffled)
    (members : List (String × Json)) :
    EndsOwn own baffled (transactionFrom wrap (.obj members)) := by
  obtain ⟨found, hfound⟩ := transactionOf_obj members
  unfold transactionFrom
  rw [hfound]
  cases found with
  | error cause => exact .failed (hwrap cause) hbaffled
  | ok tx => exact .ok hbaffled

/-- An error of the node is told with its hint, if the hint can be looked up. -/
theorem endsOwn_refused {α : Type} {own : Failure → Prop} (cause : RpcError)
    (told : Refused → Failure) (htold : ∀ answer, own (told answer)) :
    EndsOwn own cause.Unhinted (.error (match refused cause with
      | .error e => .mismatch e
      | .ok answer => told answer) : Except Failure α) := by
  unfold refused
  cases hhint : cause.hint? with
  | error e => exact .baffled (RpcError.hint?_eq_error_iff.1 ⟨e, hhint⟩)
  | ok hint =>
    refine .failed (htold _) fun hunhinted => ?_
    obtain ⟨e, herror⟩ := RpcError.hint?_eq_error_iff.2 hunhinted
    rw [hhint] at herror
    cases herror

theorem reads_fundOutcome : Reads IsFunding RpcError.Unhinted Shapeless fundOutcome where
  ok answer := by
    cases answer with
    | obj members =>
      exact endsOwn_transactionFrom_obj (fun _ => .intro _) (not_shapeless members) members
    | _ => exact .baffled nofun
  rpc cause := by
    show EndsOwn _ _ (.error (fundingFailure cause))
    unfold fundingFailure
    refine endsOwn_refused cause (fun answer => if cause.hasCode insufficientFundsCode then
      .funding (.insufficientFunds answer) else .funding (.refused answer)) fun answer => ?_
    split <;> exact .intro _
  transport _ := ⟨_, .intro _, rfl⟩
  mismatch _ := rfl

theorem reads_relayOutcome :
    Reads IsBroadcast RpcError.Unhinted (fun _ => False) relayOutcome where
  ok _ := .ok id
  rpc cause := endsOwn_refused cause (fun answer => .broadcast (.refused answer)) fun _ => .intro _
  transport _ := ⟨_, .intro _, rfl⟩
  mismatch _ := rfl

theorem signatureDetail_eq_error_iff (members : List (String × Json)) :
    (∃ cause, signatureDetail (.obj members) = .error cause)
      ↔ Unlisted ((Json.find? members "errors").getD .null) := by
  have hmember : (Json.obj members).memberOr "errors" .null
      = .ok ((Json.find? members "errors").getD .null) := rfl
  unfold signatureDetail Unlisted
  rw [hmember]
  generalize (Json.find? members "errors").getD .null = errors
  change (∃ cause, (ite (errors.isTruthy = true) _ _ : Except Mismatch String) = .error cause) ↔ _
  by_cases htruthy : errors.isTruthy = true
  · rw [if_pos htruthy, and_iff_right htruthy]
    cases errors.elements with
    | error cause => exact iff_of_true ⟨cause, rfl⟩ ⟨cause, rfl⟩
    | ok items => exact iff_of_false nofun nofun
  · rw [if_neg htruthy]
    exact iff_of_false nofun fun h => htruthy h.1

theorem not_unsigned_of_complete {members : List (String × Json)}
    (h : ((Json.find? members "complete").getD .null).isTruthy = true) :
    ¬ Unsigned (.obj members) := by
  rintro (hshapeless | ⟨hanswer, hcomplete, -⟩)
  · exact not_shapeless members hshapeless
  · cases hanswer
    exact Bool.false_ne_true (hcomplete.symm.trans h)

theorem reads_signOutcome : Reads IsSigning (fun _ => False) Unsigned signOutcome where
  ok answer := by
    cases answer with
    | obj members =>
      have hmember : (Json.obj members).memberOr "complete" .null
          = .ok ((Json.find? members "complete").getD .null) := rfl
      show EndsOwn _ _ (signedFrom (.obj members))
      unfold signedFrom
      rw [hmember]
      dsimp only
      cases hcomplete : ((Json.find? members "complete").getD .null).isTruthy with
      | true =>
        rw [if_pos rfl]
        exact endsOwn_transactionFrom_obj (fun _ => .intro _) (not_unsigned_of_complete hcomplete)
          members
      | false =>
        rw [if_neg Bool.false_ne_true]
        cases hdetail : signatureDetail (.obj members) with
        | error cause =>
          have hunlisted := (signatureDetail_eq_error_iff members).1 ⟨cause, hdetail⟩
          exact .baffled (.unlisted rfl hcomplete hunlisted)
        | ok text =>
          -- The errors could be gone through, so the answer is none of those that cannot be read.
          refine .failed (.intro _) ?_
          rintro (hshapeless | ⟨hanswer, -, hunlisted⟩)
          · exact not_shapeless members hshapeless
          · cases hanswer
            obtain ⟨cause, herror⟩ := (signatureDetail_eq_error_iff members).2 hunlisted
            cases hdetail.symm.trans herror
    | _ => exact .baffled (.shapeless nofun)
  rpc _ := .failed (.intro _) id
  transport _ := ⟨_, .intro _, rfl⟩
  mismatch _ := rfl

/-- One call of a procedure, and an end by the reply to it. -/
def EndsByReply {α : Type} (node : Node) (method : String) (params : Json) (own : Failure → Prop)
    (badError : RpcError → Prop) (badAnswer : Json → Prop) : Trace Failure α := fun made result =>
  ∃ reply, made = [⟨.post (node.request method params), reply⟩]
    ∧ EndsOwn own (Baffles badError badAnswer reply) result

section

variable {α : Type} {node : Node} {tx : Transaction} {hex method : String}
  {params : String → Json} {own : Failure → Prop} {badError : RpcError → Prop}
  {badAnswer : Json → Prop} {read : Except Failure Json → Except Failure α} {made : History}
  {result : Except Failure α}

theorem endsByReply_of_asking (hreads : Reads own badError badAnswer read)
    (hhex : tx.toHex = .ok hex) (h : Asking (Posts node) tx method params read made result) :
    EndsByReply node method (params hex) own badError badAnswer made result := by
  cases h with
  | unwritable hother => cases hhex.symm.trans hother
  | asked hother hposts =>
    cases hhex.symm.trans hother
    obtain ⟨reply, hmade, rfl⟩ := hposts
    exact ⟨reply, hmade, hreads.endsOwn reply⟩

theorem endsByReply_of_funding {feeRate : FeeRate} {result : Except Failure Transaction}
    (hrate : feeRate.satVb.Below FeeRate.limit) (hhex : tx.toHex = .ok hex)
    (h : Funding (Posts node) tx feeRate made result) :
    ∃ options, EndsByReply node "fundrawtransaction" (fundParams options hex) IsFunding
      RpcError.Unhinted Shapeless made result := by
  obtain ⟨told, htold⟩ := FeeRate.exists_fundOptions hrate tx.outputs.length true
  cases h with
  | rateTooLarge hnone => cases htold.symm.trans hnone
  | asking _ hasking => exact ⟨_, endsByReply_of_asking reads_fundOutcome hhex hasking⟩

end

/-- Whatever the node replies, and with whatever status: each step makes one call and ends with a
result or with a failure of its own, unless the reply is one of those that baffle it. -/
theorem endsOwn_fund_and_sign_and_broadcast (around : Behaviour) (node : Node) {tx : Transaction}
    {hex : String} {feeRate : FeeRate} (hhex : tx.toHex = .ok hex)
    (hrate : feeRate.satVb.Below FeeRate.limit) (world : World) :
    (∃ options, EndsByReply node "fundrawtransaction" (fundParams options hex) IsFunding
        RpcError.Unhinted Shapeless (made (node.fund around.transport tx feeRate) world)
        (node.fund around.transport tx feeRate world).1)
      ∧ EndsByReply node "signrawtransactionwithwallet" (rawParams hex) IsSigning (fun _ => False)
        Unsigned (made (node.sign around.transport tx) world)
        (node.sign around.transport tx world).1
      ∧ EndsByReply node "sendrawtransaction" (rawParams hex) IsBroadcast RpcError.Unhinted
        (fun _ => False) (made (node.broadcast around.transport tx) world)
        (node.broadcast around.transport tx world).1 := by
  have hcalls := leads_call around node
  exact ⟨endsByReply_of_funding hrate hhex ((leads_fund hcalls tx feeRate).made world).2,
    endsByReply_of_asking reads_signOutcome hhex ((leads_sign hcalls tx).made world).2,
    endsByReply_of_asking reads_relayOutcome hhex ((leads_broadcast hcalls tx).made world).2⟩

/-! ## A node that baffles every step -/

open Mint (localAnswers localNode openRequest)

/-- Nothing is answered, but that a transaction is not relayed, without a message. -/
def muteAnswers (history : History) : (call : Call) → call.Answer
  | .post call =>
    if call.method = "sendrawtransaction" then
      some ⟨500, "\x7b\"result\":null,\"error\":\x7b\"code\":-25,\"message\":null\x7d\x7d"⟩
    else some ⟨200, "\x7b\"result\":null\x7d"⟩
  | call => localAnswers history call

/-- A transaction with one output and nothing else. -/
def bareTx : Transaction :=
  ⟨2, 0, [], [⟨0, []⟩]⟩

def bareHex : String :=
  "02000000000100000000000000000000000000"

/-- Did a step end with a mismatch? -/
def isMismatch {α : Type} : Except Failure α → Bool
  | .error (.mismatch _) => true
  | _ => false

/-- A step that ends with a mismatch was baffled. -/
theorem baffled_of_endsByReply {α : Type} {node : Node} {method : String} {params : Json}
    {own : Failure → Prop} {badError : RpcError → Prop} {badAnswer : Json → Prop} {made : History}
    {result : Except Failure α} (hown : ∀ cause, ¬ own (.mismatch cause))
    (hresult : isMismatch result = true)
    (h : EndsByReply node method params own badError badAnswer made result) :
    ∃ reply, made = [⟨.post (node.request method params), reply⟩]
      ∧ Baffles badError badAnswer reply := by
  obtain ⟨reply, hmade, hends⟩ := h
  cases hends with
  | ok => cases hresult
  | @failed e hfailed =>
    cases e with
    | mismatch cause => exact absurd hfailed (hown cause)
    | _ => cases hresult
  | baffled hbaffled => exact ⟨reply, hmade, hbaffled⟩

/-- All three steps end with a failure that is not theirs. -/
theorem muteAnswers_baffle :
    bareTx.toHex = .ok bareHex ∧ openRequest.feeRate.satVb.Below FeeRate.limit
      ∧ (∃ options reply,
        made (localNode.fund (Behaviour.transport muteAnswers) bareTx openRequest.feeRate)
            ⟨[], none⟩
            = [⟨.post (localNode.request "fundrawtransaction" (fundParams options bareHex)), reply⟩]
          ∧ Baffles RpcError.Unhinted Shapeless reply)
      ∧ (∃ reply, made (localNode.sign (Behaviour.transport muteAnswers) bareTx) ⟨[], none⟩
            = [⟨.post (localNode.request "signrawtransactionwithwallet" (rawParams bareHex)),
              reply⟩]
          ∧ Baffles (fun _ => False) Unsigned reply)
      ∧ ∃ reply, made (localNode.broadcast (Behaviour.transport muteAnswers) bareTx) ⟨[], none⟩
            = [⟨.post (localNode.request "sendrawtransaction" (rawParams bareHex)), reply⟩]
          ∧ Baffles RpcError.Unhinted (fun _ => False) reply := by
  have hhex : bareTx.toHex = .ok bareHex := by decide +kernel
  have hrate : openRequest.feeRate.satVb.Below FeeRate.limit := by decide +kernel
  obtain ⟨⟨options, hfund⟩, hsign, hbroadcast⟩ :=
    endsOwn_fund_and_sign_and_broadcast muteAnswers localNode hhex hrate ⟨[], none⟩
  exact ⟨hhex, hrate, ⟨options, baffled_of_endsByReply nofun (by decide +kernel) hfund⟩,
    baffled_of_endsByReply nofun (by decide +kernel) hsign,
    baffled_of_endsByReply nofun (by decide +kernel) hbroadcast⟩

end Runesmith.Node
