import Runesmith.Node.Error

/-!
# Errors of the node without a hint

The hint for an error is looked up by its code and by the wording of its message, and both are
whatever the node answered. The lookup goes wrong where it comes to the wording of something that is
no text, or to a set of codes with something that is no plain value (`hint?_eq_error_iff`).
-/

namespace Runesmith

/-! ## Codes -/

namespace Binary64

theorem magnitude_snd_pos (m : Nat) (e : Int) : 0 < (magnitude m e).2 := by
  unfold magnitude
  split
  · exact Nat.one_pos
  · exact Nat.two_pow_pos _

/-- A double equals one whole number at most. -/
theorem isInt_unique {x : Binary64} {m n : Int} (hm : x.isInt m = true) (hn : x.isInt n = true) :
    m = n := by
  cases x with
  | finite negative mantissa exponent =>
    have hpos : ((magnitude mantissa exponent).2 : Int) ≠ 0 :=
      Int.natCast_ne_zero.2 (Nat.ne_of_gt (magnitude_snd_pos mantissa exponent))
    exact Int.eq_of_mul_eq_mul_right hpos
      ((of_decide_eq_true hm).symm.trans (of_decide_eq_true hn))
  | _ => cases hm

end Binary64

namespace Node.RpcError

/-- A code is one number at most. -/
theorem hasCode_unique {e : RpcError} {m n : Int} (hm : e.hasCode m = true)
    (hn : e.hasCode n = true) : m = n := by
  unfold hasCode at hm hn
  cases hcode : e.code with
  | bool b =>
    rw [hcode] at hm hn
    exact (eq_of_beq hm).symm.trans (eq_of_beq hn)
  | int k =>
    rw [hcode] at hm hn
    exact (eq_of_beq hm).symm.trans (eq_of_beq hn)
  | float x =>
    rw [hcode] at hm hn
    exact Binary64.isInt_unique hm hn
  | _ =>
    rw [hcode] at hm
    cases hm

/-- Numbers are plain values. -/
theorem isHashable_of_hasCode {e : RpcError} {n : Int} (h : e.hasCode n = true) :
    e.code.isHashable = true := by
  unfold hasCode at h
  cases hcode : e.code with
  | arr _ | obj _ =>
    rw [hcode] at h
    cases h
  | _ => rfl

theorem hasCode_eq_false {e : RpcError} (h : e.code.isHashable = false) (n : Int) :
    e.hasCode n = false :=
  Bool.eq_false_iff.2 fun hcode => Bool.false_ne_true (h.symm.trans (isHashable_of_hasCode hcode))

/-! ## The lookup in parts -/

/-- A hint that is found, or else what follows. -/
def settle (found : Bool) (hint : Hint) (rest : Except Mismatch (Option Hint)) :
    Except Mismatch (Option Hint) :=
  if found then .ok (some hint) else rest

/-- The lookup from the set of codes on. -/
def lateHint (e : RpcError) (message : String) : Except Mismatch (Option Hint) :=
  e.isSpentInputCode >>= fun spent =>
    settle spent .spentInput <|
    settle (Json.textContains message "missing inputs") .spentInput <|
    settle (Json.textContains message "already in block chain") .spentInput <|
    settle (e.hasCode (-18)) .walletNotLoaded <| .ok none

/-- The lookup from the wording of the message on, in lower case. -/
def wordingHint (e : RpcError) (message : String) : Except Mismatch (Option Hint) :=
  settle (Json.textContains message "insufficient funds") .insufficientFunds <|
  settle (e.hasCode (-13)) .walletLocked <|
  settle (Json.textContains message "wallet passphrase") .walletLocked <|
  settle (Json.textContains message "wallet locked") .walletLocked <| e.lateHint message

/-- The lookup from where the message is put in lower case. -/
def wordedHint (e : RpcError) : Except Mismatch (Option Hint) :=
  e.loweredMessage >>= e.wordingHint

/-- The lookup behind the rules about fees and dust. -/
def codedHint (e : RpcError) : Except Mismatch (Option Hint) :=
  settle (e.hasCode (-6)) .insufficientFunds e.wordedHint

theorem hint?_eq (e : RpcError) :
    e.hint? = if e.hasCode (-26) then
        e.message.contains "min relay fee not met" >>= fun fee =>
          settle fee .belowRelayFee <|
            e.message.contains "dust" >>= fun dust => settle dust .dustOutput e.codedHint
      else e.codedHint :=
  rfl

theorem isOk_settle (found : Bool) (hint : Hint) (rest : Except Mismatch (Option Hint)) :
    (settle found hint rest).isOk = (found || rest.isOk) := by
  cases found <;> rfl

/-! ## Errors without a hint -/

/-- Words that settle the hint before the code is looked up. -/
def settlingWords : List String :=
  ["insufficient funds", "wallet passphrase", "wallet locked"]

/-- Was the transaction refused for its fee or for dust? -/
def IsPolicy (e : RpcError) : Prop :=
  e.hasCode (-26) = true ∧ (e.message.contains "min relay fee not met" = .ok true
    ∨ e.message.contains "dust" = .ok true)

/-- Errors whose hint cannot be looked up: nothing settles the hint before something that is no text
is put in lower case, or before a code that is no plain value is looked for among others. -/
inductive Unhinted (e : RpcError) : Prop where
  | noText (hmessage : e.message.wording? = none) (hcode : e.hasCode (-6) = false)
      (hpolicy : ¬ e.IsPolicy) : Unhinted e
  | noCode {text : String} (hmessage : e.message.wording? = some text)
      (hcode : e.code.isHashable = false)
      (hwords : ∀ word ∈ settlingWords, ¬ Json.textContains (Text.lower text) word) : Unhinted e

section

variable {e : RpcError} {text : String}

theorem isOk_lateHint (e : RpcError) (message : String) :
    (e.lateHint message).isOk = e.code.isHashable := by
  unfold lateHint isSpentInputCode
  cases e.code.isHashable with
  | false => rfl
  | true =>
    show (settle _ _ (settle _ _ (settle _ _ (settle _ _ _)))).isOk = true
    rw [isOk_settle, isOk_settle, isOk_settle, isOk_settle]
    simp [Except.isOk, Except.toBool]

theorem isOk_wordedHint_of_text (h : e.message.wording? = some text) :
    e.wordedHint.isOk
      = (settlingWords.any (Json.textContains (Text.lower text)) || e.code.isHashable) := by
  have hlowered : e.loweredMessage = .ok (Text.lower text) := by
    unfold loweredMessage
    rw [h]
  have hlocked : e.hasCode (-13) = true → e.code.isHashable = true := isHashable_of_hasCode
  rw [wordedHint, hlowered]
  change (e.wordingHint (Text.lower text)).isOk = _
  simp only [wordingHint, settlingWords, isOk_settle, isOk_lateHint, List.any_cons, List.any_nil,
    Bool.or_false]
  -- The code for a locked wallet settles the hint as well, but such a code is a plain value.
  revert hlocked
  cases e.hasCode (-13) <;> cases e.code.isHashable <;> simp

theorem isOk_wordedHint_of_noText (h : e.message.wording? = none) :
    e.wordedHint.isOk = false := by
  have hlowered : e.loweredMessage = .error .notAnObject := by
    unfold loweredMessage
    rw [h]
  rw [wordedHint, hlowered]
  rfl

/-- Words are looked for in the wording of text. -/
theorem contains_of_wording {value : Json} (h : value.wording? = some text) (part : String) :
    value.contains part = .ok (Json.textContains text part) := by
  cases value <;> cases h <;> rfl

/-- In text, only the wording and the code can stop the lookup. -/
theorem isOk_hint?_of_text (h : e.message.wording? = some text) :
    e.hint?.isOk = e.wordedHint.isOk := by
  have hcontains := contains_of_wording h
  rw [hint?_eq, hcontains, hcontains]
  cases hhash : e.code.isHashable with
  | false =>
    -- No rule about a code applies, so that the wording alone is left.
    rw [hasCode_eq_false hhash, codedHint, hasCode_eq_false hhash]
    rfl
  | true =>
    have hworded : e.wordedHint.isOk = true := by
      rw [isOk_wordedHint_of_text h, hhash, Bool.or_true]
    have hcoded : e.codedHint.isOk = true := by
      rw [codedHint, isOk_settle, hworded, Bool.or_true]
    rw [hworded]
    split
    · show (settle _ _ (settle _ _ _)).isOk = true
      rw [isOk_settle, isOk_settle, hcoded, Bool.or_true, Bool.or_true]
    · exact hcoded

/-- In a value without parts nothing can be searched for, whatever it is. -/
theorem contains_eq_error {value : Json} {part : String} {cause : Mismatch}
    (h : value.contains part = .error cause) (other : String) :
    value.contains other = .error cause := by
  cases value <;> cases h <;> rfl

/-- In anything but text, a known code has to come before the wording. -/
theorem isOk_hint?_of_noText (h : e.message.wording? = none) :
    e.hint?.isOk = true ↔ e.hasCode (-6) = true ∨ e.IsPolicy := by
  have hcoded : e.codedHint.isOk = e.hasCode (-6) := by
    rw [codedHint, isOk_settle, isOk_wordedHint_of_noText h, Bool.or_false]
  rw [hint?_eq]
  unfold IsPolicy
  cases hcode : e.hasCode (-26) with
  | false =>
    rw [if_neg Bool.false_ne_true, hcoded]
    simp
  | true =>
    -- The code is that of a refused transaction, and cannot be that of insufficient funds as well.
    have hother : e.hasCode (-6) = false :=
      Bool.eq_false_iff.2 fun hfunds => absurd (hasCode_unique hcode hfunds) (by decide)
    rw [if_pos rfl]
    rw [hother] at hcoded ⊢
    cases hfee : e.message.contains "min relay fee not met" with
    | error cause =>
      rw [contains_eq_error hfee "dust"]
      exact iff_of_false nofun (by simp)
    | ok fee =>
      cases hdust : e.message.contains "dust" with
      | error cause =>
        rw [contains_eq_error hdust] at hfee
        cases hfee
      | ok dust =>
        show (settle _ _ (settle _ _ _)).isOk = true ↔ _
        rw [isOk_settle, isOk_settle, hcoded]
        simp

/-- Where the lookup goes wrong. -/
theorem hint?_eq_error_iff : (∃ cause, e.hint? = .error cause) ↔ e.Unhinted := by
  have herror : (∃ cause, e.hint? = .error cause) ↔ ¬ e.hint?.isOk = true := by
    cases e.hint? with
    | error cause => exact iff_of_true ⟨cause, rfl⟩ nofun
    | ok hint => exact iff_of_false nofun fun h => h rfl
  rw [herror]
  cases hmessage : e.message.wording? with
  | some text =>
    rw [isOk_hint?_of_text hmessage, isOk_wordedHint_of_text hmessage, Bool.or_eq_true, not_or,
      Bool.not_eq_true, Bool.not_eq_true, List.any_eq_false]
    constructor
    · rintro ⟨hwords, hhash⟩
      exact .noCode hmessage hhash hwords
    · rintro (⟨hnone, -, -⟩ | ⟨hsome, hhash, hwords⟩)
      · cases hmessage.symm.trans hnone
      · cases hmessage.symm.trans hsome
        exact ⟨hwords, hhash⟩
  | none =>
    rw [isOk_hint?_of_noText hmessage, not_or, Bool.not_eq_true]
    constructor
    · rintro ⟨hcode, hpolicy⟩
      exact .noText hmessage hcode hpolicy
    · rintro (⟨-, hcode, hpolicy⟩ | ⟨hsome, -, -⟩)
      · exact ⟨hcode, hpolicy⟩
      · cases hmessage.symm.trans hsome

end

end Node.RpcError

end Runesmith
