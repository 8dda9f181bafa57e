import Mathlib.Data.List.Forall2
import Runesmith.Proofs.Script

/-!
# Walking scripts

An instruction is written as its opcode, the bytes of its length where the opcode has any, and its
data. A walk finds the instructions whose bytes, one behind the other, are the script:

* `Written` says which bytes an instruction is written with, and `CutShort` which bytes begin an
  instruction and end inside it.
* `step_eq_ok_iff`, `step_eq_error_iff`: one step takes the bytes of one instruction, and fails
  exactly in front of one that is cut short.
* `instructions_eq_iff`: by induction, a whole walk yields the instructions that tile the script, up
  to its end or to the first that is cut short.
* `instructions_undo_push_and_tile`: so pushes that were written one behind the other are found
  again.
-/

namespace Runesmith.Script

/-! ## The bytes of an instruction -/

/-- The bytes that an instruction is written with. -/
inductive Written : Instruction → Bytes → Prop where
  | direct {opcode : UInt8} {data : Bytes} (hop : opcode < pushData1)
      (hdata : data.length = opcode.toNat) : Written (.push opcode data) (opcode :: data)
  | sized {opcode : UInt8} {width : Nat} {size data : Bytes} (hop : (opcode, width) ∈ sizedPushes)
      (hsize : size.length = width) (hdata : data.length = Bytes.ofLittleEndian size) :
      Written (.push opcode data) (opcode :: (size ++ data))
  | bare {opcode : UInt8} (hop : pushData4 < opcode) : Written (.bare opcode) [opcode]

/-- An opcode with too few bytes behind it for its length or for its data. -/
inductive CutShort : Error → Bytes → Prop where
  | data {opcode : UInt8} {rest : Bytes} (hop : opcode < pushData1)
      (hrest : rest.length < opcode.toNat) : CutShort .pastEnd (opcode :: rest)
  | size {opcode : UInt8} {width : Nat} {rest : Bytes} (hop : (opcode, width) ∈ sizedPushes)
      (hrest : rest.length < width) : CutShort .truncatedLength (opcode :: rest)
  | sizedData {opcode : UInt8} {width : Nat} {size rest : Bytes}
      (hop : (opcode, width) ∈ sizedPushes) (hsize : size.length = width)
      (hrest : rest.length < Bytes.ofLittleEndian size) :
      CutShort .pastEnd (opcode :: (size ++ rest))

/-- How a walk ends: with nothing left, or in front of an instruction that is cut short. -/
inductive Ends : Option Error → Bytes → Prop where
  | finished : Ends none []
  | stopped {e : Error} {rest : Bytes} (h : CutShort e rest) : Ends (some e) rest

theorem Written.exists_head {i : Instruction} {tile : Bytes} (h : Written i tile) :
    ∃ opcode behind, tile = opcode :: behind := by
  cases h with
  | direct => exact ⟨_, _, rfl⟩
  | sized => exact ⟨_, _, rfl⟩
  | bare => exact ⟨_, _, rfl⟩

theorem CutShort.exists_head {e : Error} {rest : Bytes} (h : CutShort e rest) :
    ∃ opcode behind, rest = opcode :: behind := by
  cases h with
  | data => exact ⟨_, _, rfl⟩
  | size => exact ⟨_, _, rfl⟩
  | sizedData => exact ⟨_, _, rfl⟩

/-! ## One step -/

theorem readPush_eq_error_iff {opcode : UInt8} {length : Nat} {bytes : Bytes} {e : Error} :
    readPush opcode length bytes = .error e ↔ e = .pastEnd ∧ bytes.length < length := by
  rw [← Bytes.split?_eq_none_iff, readPush]
  split
  · rename_i hsplit
    exact iff_of_false nofun fun h => by rw [h.2] at hsplit; cases hsplit
  · rename_i hsplit
    constructor
    · intro h
      cases h
      exact ⟨rfl, hsplit⟩
    · rintro ⟨rfl, -⟩
      rfl

/-- A step takes the bytes of an instruction from the front. -/
theorem step_eq_ok_iff {opcode : UInt8} {bytes rest : Bytes} {i : Instruction} :
    step opcode bytes = .ok (i, rest)
      ↔ ∃ tile, Written i tile ∧ opcode :: bytes = tile ++ rest := by
  constructor
  · intro h
    rcases opcode_cases opcode with hop | ⟨width, hop⟩ | hop
    · rw [step_of_lt hop] at h
      rcases readPush_eq_ok_iff.1 h with ⟨data, rfl, hdata, rfl⟩
      exact ⟨_, .direct hop hdata, rfl⟩
    · rw [step_of_mem hop] at h
      rcases readSizedPush_eq_ok_iff.1 h with ⟨data, rfl, hdata, rfl⟩
      refine ⟨_, .sized hop (Bytes.length_littleEndian width data.length) ?_, ?_⟩
      · exact (Bytes.ofLittleEndian_littleEndian hdata).symm
      · rw [List.cons_append, List.append_assoc]
    · rw [step_of_gt hop] at h
      cases h
      exact ⟨_, .bare hop, rfl⟩
  · rintro ⟨tile, hwritten, htile⟩
    cases hwritten with
    | direct hop hdata =>
      cases htile
      rw [step_of_lt hop]
      exact readPush_eq_ok_iff.2 ⟨_, rfl, hdata, rfl⟩
    | @sized _ width size data hop hsize hdata =>
      rw [List.cons_append, List.append_assoc] at htile
      cases htile
      rw [step_of_mem hop]
      refine readSizedPush_eq_ok_iff.2 ⟨data, ?_, ?_, rfl⟩
      · rw [hdata, ← hsize, Bytes.littleEndian_ofLittleEndian]
      · rw [hdata, ← hsize]
        exact Bytes.ofLittleEndian_lt size
    | bare hop =>
      cases htile
      exact step_of_gt hop

/-- A step fails exactly in front of an instruction that is cut short. -/
theorem step_eq_error_iff {opcode : UInt8} {bytes : Bytes} {e : Error} :
    step opcode bytes = .error e ↔ CutShort e (opcode :: bytes) := by
  constructor
  · intro h
    rcases opcode_cases opcode with hop | ⟨width, hop⟩ | hop
    · rw [step_of_lt hop] at h
      rcases readPush_eq_error_iff.1 h with ⟨rfl, hrest⟩
      exact .data hop hrest
    · rw [step_of_mem hop, readSizedPush] at h
      split at h
      · rename_i size rest hsplit
        rcases Bytes.split?_eq_some_iff.1 hsplit with ⟨rfl, hsize⟩
        rcases readPush_eq_error_iff.1 h with ⟨rfl, hrest⟩
        exact .sizedData hop hsize hrest
      · rename_i hsplit
        cases h
        exact .size hop (Bytes.split?_eq_none_iff.1 hsplit)
    · rw [step_of_gt hop] at h
      cases h
  · intro h
    cases h with
    | data hop hrest =>
      rw [step_of_lt hop]
      exact readPush_eq_error_iff.2 ⟨rfl, hrest⟩
    | size hop hrest => rw [step_of_mem hop, readSizedPush, Bytes.split?_eq_none_iff.2 hrest]
    | @sizedData _ width size rest hop hsize hrest =>
      have hsplit : Bytes.split? width (size ++ rest) = some (size, rest) :=
        Bytes.split?_eq_some_iff.2 ⟨rfl, hsize⟩
      rw [step_of_mem hop, readSizedPush, hsplit]
      exact readPush_eq_error_iff.2 ⟨rfl, hrest⟩

/-! ## A whole walk -/

/-- The bytes of the instructions, one behind the other, are the script up to where it ends. -/
def Tiles (script : Bytes) (found : List Instruction) (stop : Option Error) : Prop :=
  ∃ tiles rest, script = tiles.flatten ++ rest ∧ List.Forall₂ Written found tiles ∧ Ends stop rest

theorem instructions_of_cutShort {e : Error} {script : Bytes} (h : CutShort e script) :
    instructions script = ([], some e) := by
  rcases h.exists_head with ⟨opcode, behind, rfl⟩
  have hstep := step_eq_error_iff.2 h
  rw [instructions]
  split
  · rename_i other hother
    rw [hstep] at hother
    cases hother
    rfl
  · rename_i hok
    rw [hstep] at hok
    cases hok

theorem instructions_of_written {i : Instruction} {tile : Bytes} (h : Written i tile)
    (rest : Bytes) :
    instructions (tile ++ rest) = (i :: (instructions rest).1, (instructions rest).2) := by
  rcases h.exists_head with ⟨opcode, behind, rfl⟩
  exact instructions_cons (step_eq_ok_iff.2 ⟨_, h, rfl⟩)

theorem tiles_instructions (script : Bytes) :
    Tiles script (instructions script).1 (instructions script).2 := by
  -- The induction follows the walk, one instruction at a time.
  fun_induction instructions script with
  | case1 => exact ⟨[], [], rfl, .nil, .finished⟩
  | case2 opcode bytes e hstep =>
    exact ⟨[], opcode :: bytes, rfl, .nil, .stopped (step_eq_error_iff.1 hstep)⟩
  | case3 opcode bytes i rest hstep more stop hmore ih =>
    rcases step_eq_ok_iff.1 hstep with ⟨tile, hwritten, htile⟩
    rw [hmore] at ih
    rcases ih with ⟨tiles, left, hrest, htiles, hends⟩
    refine ⟨tile :: tiles, left, ?_, .cons hwritten htiles, hends⟩
    rw [htile, hrest, List.flatten_cons, List.append_assoc]

/-- There is one walk only. -/
theorem Tiles.instructions_eq {script : Bytes} {found : List Instruction} {stop : Option Error}
    (h : Tiles script found stop) : instructions script = (found, stop) := by
  rcases h with ⟨tiles, rest, rfl, htiles, hends⟩
  induction htiles with
  | nil =>
    cases hends with
    | finished => exact instructions_nil
    | stopped hcut => exact instructions_of_cutShort hcut
  | cons hwritten _ ih =>
    rw [List.flatten_cons, List.append_assoc, instructions_of_written hwritten, ih]

theorem instructions_eq_iff {script : Bytes} {found : List Instruction} {stop : Option Error} :
    instructions script = (found, stop) ↔ Tiles script found stop := by
  constructor
  · intro h
    have htiles := tiles_instructions script
    rw [h] at htiles
    exact htiles
  · exact Tiles.instructions_eq

/-! ## Pushes that were written -/

theorem written_sized {opcode : UInt8} {width : Nat} {data : Bytes}
    (hop : (opcode, width) ∈ sizedPushes) (h : data.length < 256 ^ width) :
    Written (.push opcode data) (opcode :: (Bytes.littleEndian width data.length ++ data)) :=
  .sized hop (Bytes.length_littleEndian width data.length)
    (Bytes.ofLittleEndian_littleEndian h).symm

theorem written_push {data : Bytes} (h : data.length < 2 ^ 32) :
    Written (shortestPush data) (push data) := by
  rcases push_cases h with ⟨hlen, hopcode, hpush⟩ | ⟨opcode, width, hop, hlen, hopcode, hpush⟩
  · rw [hopcode, hpush]
    obtain ⟨hop, hvalue⟩ := direct_of_lt hlen
    exact .direct hop hvalue.symm
  · rw [hopcode, hpush]
    exact written_sized hop hlen

theorem tiles_flatMap_push {pieces : List Bytes} (h : ∀ piece ∈ pieces, piece.length < 2 ^ 32) :
    Tiles (pieces.flatMap push) (pieces.map shortestPush) none := by
  refine ⟨pieces.map push, [], ?_, ?_, .finished⟩
  · rw [List.append_nil, List.flatMap_def]
  · rw [List.forall₂_map_left_iff, List.forall₂_map_right_iff, List.forall₂_same]
    intro piece hpiece
    exact written_push (h piece hpiece)

/-- A walk over pushes that were written one behind the other finds these pushes. Over any script
it finds the instructions that tile it, up to the end or up to the first one that is cut short, and
it stops early for no other reason. -/
theorem instructions_undo_push_and_tile :
    (∀ pieces : List Bytes, (∀ piece ∈ pieces, piece.length < 2 ^ 32) →
      instructions (pieces.flatMap push) = (pieces.map shortestPush, none))
    ∧ ∀ script found stop, instructions script = (found, stop) ↔ Tiles script found stop := by
  constructor
  · intro pieces hpieces
    exact (tiles_flatMap_push hpieces).instructions_eq
  · intro script found stop
    exact instructions_eq_iff

/-- Pieces on both sides of the first limit, one of them empty. -/
def severalPieces : List Bytes :=
  [[], List.replicate 75 1, List.replicate 76 2]

/-- Three pushes, and a script whose third instruction has one of two bytes of its length. -/
theorem instructions_severalPieces :
    (∀ piece ∈ severalPieces, piece.length < 2 ^ 32)
      ∧ instructions (severalPieces.flatMap push) = (severalPieces.map shortestPush, none)
      ∧ instructions [0x01, 0xAA, 0x6A, 0x4D, 0x01]
        = ([.push 0x01 [0xAA], .bare 0x6A], some .truncatedLength) := by
  have hshort : ∀ piece ∈ severalPieces, piece.length < 2 ^ 32 := by decide
  have htiles : Tiles [0x01, 0xAA, 0x6A, 0x4D, 0x01] [.push 0x01 [0xAA], .bare 0x6A]
      (some .truncatedLength) := by
    refine ⟨[[0x01, 0xAA], [0x6A]], [0x4D, 0x01], rfl, .cons ?_ (.cons ?_ .nil), .stopped ?_⟩
    · exact .direct (by decide) rfl
    · exact .bare (by decide)
    · have hop : (pushData2, 2) ∈ sizedPushes := by decide
      exact .size hop (by decide)
  exact ⟨hshort, instructions_undo_push_and_tile.1 _ hshort,
    (instructions_undo_push_and_tile.2 _ _ _).2 htiles⟩

end Runesmith.Script
