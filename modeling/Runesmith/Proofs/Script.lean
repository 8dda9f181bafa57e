import Runesmith.Proofs.Bytes
import Runesmith.Script

/-!
# Scripts of pushes

`Pushes` is the grammar of scripts that do nothing but push data, in any of the forms that a push
may take. Against it:

* `pushes_iff`: walking a script yields nothing but pushes, and comes to its end, exactly if the
  script has that form.
* `pushes_flatMap_push`: scripts that were built from pushes have it.
-/

namespace Runesmith.Script

/-! ## The grammar of pushes -/

/-- The opcodes behind which the length of the data stands, with the number of bytes it takes. -/
def sizedPushes : List (UInt8 × Nat) := [(pushData1, 1), (pushData2, 2), (pushData4, 4)]

/-- A script of pushes and the pieces of data that they push. A push need not be the shortest one
for its data. -/
inductive Pushes : Bytes → List Bytes → Prop where
  | nil : Pushes [] []
  | direct {data rest : Bytes} {pieces : List Bytes} (h : data.length < 0x4C)
      (hrest : Pushes rest pieces) :
      Pushes (UInt8.ofNat data.length :: (data ++ rest)) (data :: pieces)
  | sized {opcode : UInt8} {width : Nat} {data rest : Bytes} {pieces : List Bytes}
      (hop : (opcode, width) ∈ sizedPushes) (h : data.length < 256 ^ width)
      (hrest : Pushes rest pieces) :
      Pushes (opcode :: (Bytes.littleEndian width data.length ++ (data ++ rest))) (data :: pieces)

/-! ## Opcodes -/

/-- An opcode begins a short push, a push with a length behind it, or no push. -/
theorem opcode_cases (opcode : UInt8) : opcode < pushData1
    ∨ (∃ width, (opcode, width) ∈ sizedPushes) ∨ pushData4 < opcode := by
  have hcode (special : UInt8) (h : opcode.toNat = special.toNat) : opcode = special :=
    UInt8.toNat_inj.1 h
  rw [UInt8.lt_iff_toNat_lt, UInt8.lt_iff_toNat_lt]
  change opcode.toNat < 0x4C ∨ _ ∨ 0x4E < opcode.toNat
  by_cases hlow : opcode.toNat < 0x4C
  · exact .inl hlow
  by_cases hhigh : 0x4E < opcode.toNat
  · exact .inr (.inr hhigh)
  right; left
  have hthree : opcode.toNat = 0x4C ∨ opcode.toNat = 0x4D ∨ opcode.toNat = 0x4E := by omega
  rcases hthree with h | h | h
  · exact ⟨1, by simp [sizedPushes, hcode pushData1 h]⟩
  · exact ⟨2, by simp [sizedPushes, hcode pushData2 h]⟩
  · exact ⟨4, by simp [sizedPushes, hcode pushData4 h]⟩

section

variable {opcode : UInt8} {width : Nat} {bytes : Bytes}

theorem step_of_lt (hop : opcode < pushData1) :
    step opcode bytes = readPush opcode opcode.toNat bytes :=
  if_pos hop

theorem step_of_mem (hop : (opcode, width) ∈ sizedPushes) :
    step opcode bytes = readSizedPush opcode width bytes := by
  simp only [sizedPushes, List.mem_cons, Prod.mk.injEq, List.not_mem_nil, or_false] at hop
  rcases hop with ⟨rfl, rfl⟩ | ⟨rfl, rfl⟩ | ⟨rfl, rfl⟩ <;> rfl

theorem step_of_gt (hop : pushData4 < opcode) : step opcode bytes = .ok (.bare opcode, bytes) := by
  rw [UInt8.lt_iff_toNat_lt] at hop
  have hlow : ¬ opcode < pushData1 := by
    rw [UInt8.lt_iff_toNat_lt]
    change 0x4E < opcode.toNat at hop
    change ¬ opcode.toNat < 0x4C
    omega
  have hne {special : UInt8} (hspecial : special.toNat ≤ pushData4.toNat) : opcode ≠ special := by
    rintro rfl
    omega
  rw [step, if_neg hlow, if_neg (hne (by decide)), if_neg (hne (by decide)),
    if_neg (hne (by decide))]

end

/-- A length that is short enough is an opcode. -/
theorem direct_of_lt {n : Nat} (h : n < 0x4C) :
    UInt8.ofNat n < pushData1 ∧ (UInt8.ofNat n).toNat = n := by
  have hvalue : (UInt8.ofNat n).toNat = n :=
    UInt8.toNat_ofNat_of_lt' (by show n < 256; omega)
  refine ⟨?_, hvalue⟩
  rw [UInt8.lt_iff_toNat_lt, hvalue]
  exact h

/-! ## One instruction -/

theorem readPush_eq_ok_iff {opcode : UInt8} {length : Nat} {bytes rest : Bytes} {i : Instruction} :
    readPush opcode length bytes = .ok (i, rest) ↔
      ∃ data, bytes = data ++ rest ∧ data.length = length ∧ i = .push opcode data := by
  unfold readPush
  constructor
  · intro h
    split at h
    · rename_i data rest' hs
      simp only [Except.ok.injEq, Prod.mk.injEq] at h
      rcases h with ⟨rfl, rfl⟩
      rcases Bytes.split?_eq_some_iff.1 hs with ⟨hbytes, hlen⟩
      exact ⟨data, hbytes, hlen, rfl⟩
    · simp at h
  · rintro ⟨data, hbytes, hlen, rfl⟩
    rw [Bytes.split?_eq_some_iff.2 ⟨hbytes, hlen⟩]

theorem readSizedPush_eq_ok_iff {opcode : UInt8} {width : Nat} {bytes rest : Bytes}
    {i : Instruction} :
    readSizedPush opcode width bytes = .ok (i, rest) ↔
      ∃ data, bytes = Bytes.littleEndian width data.length ++ (data ++ rest)
        ∧ data.length < 256 ^ width ∧ i = .push opcode data := by
  unfold readSizedPush
  constructor
  · intro h
    split at h
    · rename_i size rest' hs
      rcases Bytes.split?_eq_some_iff.1 hs with ⟨rfl, rfl⟩
      rcases readPush_eq_ok_iff.1 h with ⟨data, rfl, hlen, rfl⟩
      refine ⟨data, ?_, ?_, rfl⟩
      · rw [hlen, Bytes.littleEndian_ofLittleEndian]
      · rw [hlen]
        exact Bytes.ofLittleEndian_lt size
    · simp at h
  · rintro ⟨data, rfl, hlen, rfl⟩
    have hs := Bytes.split?_length_append (Bytes.littleEndian width data.length) (data ++ rest)
    rw [Bytes.length_littleEndian] at hs
    rw [hs]
    exact readPush_eq_ok_iff.2 ⟨data, rfl, (Bytes.ofLittleEndian_littleEndian hlen).symm, rfl⟩

/-- A short push begins with the length of its data. -/
theorem step_direct {data : Bytes} (rest : Bytes) (h : data.length < 0x4C) :
    step (UInt8.ofNat data.length) (data ++ rest)
      = .ok (.push (UInt8.ofNat data.length) data, rest) := by
  obtain ⟨hop, hvalue⟩ := direct_of_lt h
  rw [step_of_lt hop]
  exact readPush_eq_ok_iff.2 ⟨data, rfl, hvalue.symm, rfl⟩

/-- A longer push begins with an opcode that says how long its length is. -/
theorem step_sized {opcode : UInt8} {width : Nat} {data : Bytes} (rest : Bytes)
    (hop : (opcode, width) ∈ sizedPushes) (h : data.length < 256 ^ width) :
    step opcode (Bytes.littleEndian width data.length ++ (data ++ rest))
      = .ok (.push opcode data, rest) := by
  rw [step_of_mem hop]
  exact readSizedPush_eq_ok_iff.2 ⟨data, rfl, h, rfl⟩

/-- There are no other pushes. -/
theorem step_push_cases {opcode opcode' : UInt8} {bytes rest data : Bytes}
    (h : step opcode bytes = .ok (.push opcode' data, rest)) :
    (data.length < 0x4C ∧ opcode = UInt8.ofNat data.length ∧ bytes = data ++ rest)
      ∨ ∃ width, (opcode, width) ∈ sizedPushes ∧ data.length < 256 ^ width
        ∧ bytes = Bytes.littleEndian width data.length ++ (data ++ rest) := by
  rcases opcode_cases opcode with hop | ⟨width, hop⟩ | hop
  · rw [step_of_lt hop] at h
    rcases readPush_eq_ok_iff.1 h with ⟨data', hbytes, hlen, hi⟩
    rcases Instruction.push.inj hi with ⟨rfl, rfl⟩
    have hlt : opcode'.toNat < 0x4C := UInt8.lt_iff_toNat_lt.1 hop
    exact .inl ⟨by omega, by rw [hlen, UInt8.ofNat_toNat], hbytes⟩
  · rw [step_of_mem hop] at h
    rcases readSizedPush_eq_ok_iff.1 h with ⟨data', hbytes, hlen, hi⟩
    rcases Instruction.push.inj hi with ⟨rfl, rfl⟩
    exact .inr ⟨width, hop, hlen, hbytes⟩
  · rw [step_of_gt hop] at h
    cases h

/-! ## Whole scripts -/

theorem instructions_nil : instructions [] = ([], none) := by
  rw [instructions]

/-- An instruction that can be read stands in front of those of the rest. -/
theorem instructions_cons {opcode : UInt8} {bytes rest : Bytes} {i : Instruction}
    (h : step opcode bytes = .ok (i, rest)) :
    instructions (opcode :: bytes) = (i :: (instructions rest).1, (instructions rest).2) := by
  rw [instructions]
  split
  · rename_i e he
    rw [h] at he
    simp at he
  · rename_i i' rest' hi
    rw [h] at hi
    simp only [Except.ok.injEq, Prod.mk.injEq] at hi
    rcases hi with ⟨rfl, rfl⟩
    rfl

/-- A script has the form of pushes exactly if walking it yields pushes of these pieces, and nothing
else, and comes to the end. -/
theorem pushes_iff {script : Bytes} {pieces : List Bytes} :
    Pushes script pieces ↔
      (instructions script).1.map Instruction.data? = pieces.map some
        ∧ (instructions script).2 = none := by
  constructor
  · intro h
    induction h with
    | nil => simp [instructions_nil]
    | direct h _ ih =>
      rw [instructions_cons (step_direct _ h)]
      exact ⟨by simp [Instruction.data?, ih.1], ih.2⟩
    | sized hop h _ ih =>
      rw [instructions_cons (step_sized _ hop h)]
      exact ⟨by simp [Instruction.data?, ih.1], ih.2⟩
  · rintro ⟨hdata, hstop⟩
    -- The induction follows the walk, one instruction at a time.
    fun_induction instructions script generalizing pieces with
    | case1 =>
      have : pieces = [] := by simpa using hdata
      rw [this]
      exact .nil
    | case2 => simp at hstop
    | case3 opcode bytes i rest hi more stop hmore ih =>
      rw [hmore] at ih
      cases pieces with
      | nil => simp at hdata
      | cons data pieces =>
        simp only [List.map_cons, List.cons.injEq] at hdata
        have hrest := ih hdata.2 hstop
        cases i with
        | bare => simp [Instruction.data?] at hdata
        | push opcode' data' =>
          have hpiece : data' = data := by simpa [Instruction.data?] using hdata.1
          subst hpiece
          -- An instruction that pushes data has one of the forms of a push.
          rcases step_push_cases hi with ⟨hlen, rfl, rfl⟩ | ⟨width, hop, hlen, rfl⟩
          · exact .direct hlen hrest
          · exact .sized hop hlen hrest

/-! ## Scripts that were built from pushes -/

/-- The shortest push of the data, as an instruction. -/
def shortestPush (data : Bytes) : Instruction :=
  .push (if data.length < 0x4C then UInt8.ofNat data.length
    else if data.length ≤ 0xFF then pushData1
    else if data.length ≤ 0xFFFF then pushData2
    else pushData4) data

/-- The shortest push has its length in the opcode or behind it. -/
theorem push_cases {data : Bytes} (h : data.length < 2 ^ 32) :
    (data.length < 0x4C ∧ shortestPush data = .push (UInt8.ofNat data.length) data
        ∧ push data = UInt8.ofNat data.length :: data)
      ∨ ∃ opcode width, (opcode, width) ∈ sizedPushes ∧ data.length < 256 ^ width
        ∧ shortestPush data = .push opcode data
        ∧ push data = opcode :: (Bytes.littleEndian width data.length ++ data) := by
  unfold shortestPush push
  dsimp only
  by_cases hdirect : data.length < 0x4C
  · exact .inl ⟨hdirect, by rw [if_pos hdirect], if_pos hdirect⟩
  rw [if_neg hdirect, if_neg hdirect]
  right
  by_cases hone : data.length ≤ 0xFF
  · have hbyte : Bytes.littleEndian 1 data.length = [UInt8.ofNat data.length] := by
      simp [Bytes.littleEndian, Nat.mod_eq_of_lt (show data.length < 256 by omega)]
    refine ⟨pushData1, 1, by simp [sizedPushes], by omega, by rw [if_pos hone], ?_⟩
    rw [if_pos hone, hbyte]
    rfl
  rw [if_neg hone, if_neg hone]
  by_cases htwo : data.length ≤ 0xFFFF
  · exact ⟨pushData2, 2, by simp [sizedPushes], by omega, by rw [if_pos htwo], if_pos htwo⟩
  · exact ⟨pushData4, 4, by simp [sizedPushes], by omega, by rw [if_neg htwo], if_neg htwo⟩

/-- The shortest push is a push. -/
theorem Pushes.push {data rest : Bytes} {pieces : List Bytes} (h : data.length < 2 ^ 32)
    (hrest : Pushes rest pieces) : Pushes (Script.push data ++ rest) (data :: pieces) := by
  rcases push_cases h with ⟨hlen, -, hpush⟩ | ⟨opcode, width, hop, hlen, -, hpush⟩
  · rw [hpush]
    exact .direct hlen hrest
  · rw [hpush, List.cons_append, List.append_assoc]
    exact .sized hop hlen hrest

theorem pushes_flatMap_push {pieces : List Bytes} (h : ∀ piece ∈ pieces, piece.length < 2 ^ 32) :
    Pushes (pieces.flatMap Script.push) pieces := by
  induction pieces with
  | nil => exact .nil
  | cons piece rest ih =>
    rw [List.flatMap_cons]
    exact .push (h piece (by simp)) (ih fun p hp => h p (by simp [hp]))

end Runesmith.Script
