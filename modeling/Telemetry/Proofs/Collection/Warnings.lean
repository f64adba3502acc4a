import Mathlib.Data.String.Basic
import Telemetry.Proofs.Collection.Run

/-!
# The warnings of a collection

A collection keeps the first warnings that it is given, each with as much of its message as there is
room for (`warnings_run`). Where a message is cut depends on the bytes that its characters take. The
part that is kept is known by two facts: it is a beginning that fits (`utf8Len_fittingChars_le`),
and every beginning that fits is a beginning of it (`prefix_fittingChars`). No character takes more
than four bytes, so at most three are left free.

The place of the cut is found without looking at the characters before it, by a search that goes
from the last allowed byte downwards. It never gets past the first byte, where every text can be cut
(`IsFitting.cutFrom?_eq`), and so a text is cut to what fits (`truncated_eq_fitting`).

* `fitting`: the characters at the front for which there is room.
* `IsFitting`: the longest beginning of a text that fits.
-/

namespace Telemetry

open String.Pos.Raw (IsValid)

/-- The characters at the front that take at most so many bytes together. -/
def fittingChars : (room : Nat) → List Char → List Char
  | _, [] => []
  | room, c :: rest => if c.utf8Size ≤ room then c :: fittingChars (room - c.utf8Size) rest else []

def fitting (room : Nat) (text : String) : String := String.ofList (fittingChars room text.toList)

/-- The longest beginning of a text that ends between two characters and takes no more than so many
bytes. -/
structure IsFitting (room : Nat) (text kept : String) : Prop where
  bytes : kept.toByteArray = text.toByteArray.extract 0 kept.utf8ByteSize
  isValid : IsValid text ⟨kept.utf8ByteSize⟩
  le : kept.utf8ByteSize ≤ room
  longest : ∀ byte, IsValid text ⟨byte⟩ → byte ≤ room → byte ≤ kept.utf8ByteSize

/-! ## The characters that fit -/

section Characters

variable {room : Nat} {chars front : List Char}

theorem isPrefix_fittingChars (room : Nat) (chars : List Char) : fittingChars room chars <+: chars := by
  induction chars generalizing room with
  | nil => exact List.prefix_refl []
  | cons c chars ih =>
    rw [fittingChars]
    split
    · exact (List.prefix_cons_inj c).mpr (ih _)
    · exact List.nil_prefix

theorem utf8Len_fittingChars_le (room : Nat) (chars : List Char) :
    String.utf8Len (fittingChars room chars) ≤ room := by
  induction chars generalizing room with
  | nil => exact Nat.zero_le room
  | cons c chars ih =>
    rw [fittingChars]
    split
    · have hrest := ih (room - c.utf8Size)
      rw [String.utf8Len_cons]
      omega
    · exact Nat.zero_le room

theorem prefix_fittingChars (hfront : front <+: chars) (hroom : String.utf8Len front ≤ room) :
    front <+: fittingChars room chars := by
  induction chars generalizing room front with
  | nil => exact hfront
  | cons c chars ih =>
    cases front with
    | nil => exact List.nil_prefix
    | cons c' front =>
      obtain ⟨rfl, htail⟩ := List.cons_prefix_cons.mp hfront
      rw [String.utf8Len_cons] at hroom
      rw [fittingChars, if_pos (by omega)]
      exact (List.prefix_cons_inj c').mpr (ih htail (by omega))

theorem fittingChars_eq_self (h : String.utf8Len chars ≤ room) : fittingChars room chars = chars :=
  (isPrefix_fittingChars room chars).sublist.antisymm
    (prefix_fittingChars (List.prefix_refl chars) h).sublist

/-- One character more would not fit, so less than four bytes are left. -/
theorem lt_utf8Len_fittingChars (h : room < String.utf8Len chars) :
    room < String.utf8Len (fittingChars room chars) + 4 := by
  obtain ⟨rest, hrest⟩ := isPrefix_fittingChars room chars
  cases rest with
  | nil =>
    rw [List.append_nil] at hrest
    rw [hrest]
    omega
  | cons c rest =>
    by_contra hfree
    have hmore : fittingChars room chars ++ [c] <+: chars :=
      ⟨rest, by rw [List.append_assoc, List.singleton_append, hrest]⟩
    have hsize : String.utf8Len (fittingChars room chars ++ [c]) ≤ room := by
      have hfour := c.utf8Size_le_four
      rw [String.utf8Len_append, String.utf8Len_cons, String.utf8Len_nil]
      omega
    have hlength := (prefix_fittingChars hmore hsize).length_le
    rw [List.length_append, List.length_singleton] at hlength
    omega

end Characters

/-! ## The text that fits -/

variable {text kept : String} {room byte : Nat}

theorem exists_fitting_append (room : Nat) (text : String) :
    ∃ rest, text = fitting room text ++ rest := by
  obtain ⟨rest, hrest⟩ := isPrefix_fittingChars room text.toList
  refine ⟨String.ofList rest, ?_⟩
  rw [fitting, ← String.ofList_append, hrest, String.ofList_toList]

theorem isFitting_fitting (room : Nat) (text : String) : IsFitting room text (fitting room text) := by
  obtain ⟨rest, hrest⟩ := exists_fitting_append room text
  refine ⟨?_, ?_, ?_, fun byte hbyte hroom => ?_⟩
  · calc (fitting room text).toByteArray
        = (fitting room text ++ rest).toByteArray.extract 0 (fitting room text).utf8ByteSize := by
          rw [String.toByteArray_append, ← String.size_toByteArray,
            ByteArray.extract_append_size_left, ByteArray.extract_zero_size]
      _ = text.toByteArray.extract 0 (fitting room text).utf8ByteSize := by rw [← hrest]
  · exact String.Pos.Raw.isValid_iff_exists_append.mpr ⟨_, rest, hrest, rfl⟩
  · rw [fitting, String.utf8ByteSize_ofList]
    exact utf8Len_fittingChars_le room text.toList
  · obtain ⟨front, back, htext, hfront⟩ := String.Pos.Raw.isValid_iff_exists_append.mp hbyte
    obtain rfl : byte = String.utf8Len front.toList := by
      rw [String.utf8Len_toList]
      exact congrArg String.Pos.Raw.byteIdx hfront
    have hprefix : front.toList <+: text.toList :=
      ⟨back.toList, by rw [htext, String.toList_append]⟩
    rw [fitting, String.utf8ByteSize_ofList]
    exact String.utf8Len_le_of_prefix (prefix_fittingChars hprefix hroom)

theorem fitting_eq_self (h : text.utf8ByteSize ≤ room) : fitting room text = text := by
  rw [← String.utf8Len_toList] at h
  rw [fitting, fittingChars_eq_self h, String.ofList_toList]

theorem lt_utf8ByteSize_fitting (h : room < text.utf8ByteSize) :
    room < (fitting room text).utf8ByteSize + 4 := by
  rw [← String.utf8Len_toList] at h
  rw [fitting, String.utf8ByteSize_ofList]
  exact lt_utf8Len_fittingChars h

/-! ## The search for the cut -/

theorem cutFrom?_of_isValid (h : IsValid text ⟨byte⟩) : cutFrom? text byte = some byte := by
  have hvalid := String.Pos.Raw.isValid_eq_true_iff.mpr h
  cases byte <;> rw [cutFrom?, if_pos hvalid]

theorem cutFrom?_of_not_isValid (h : ¬ IsValid text ⟨byte + 1⟩) :
    cutFrom? text (byte + 1) = cutFrom? text byte := by
  rw [cutFrom?, if_neg fun hvalid => h (String.Pos.Raw.isValid_eq_true_iff.mp hvalid)]

/-- The search ends at the end of what fits. -/
theorem IsFitting.cutFrom?_eq (h : IsFitting room text kept) :
    cutFrom? text room = some kept.utf8ByteSize := by
  obtain ⟨-, hvalid, hle, hlongest⟩ := h
  -- What is kept is still the longest for one byte less, unless it ends at this very byte.
  induction room with
  | zero =>
    rw [Nat.le_zero.mp hle] at hvalid ⊢
    exact cutFrom?_of_isValid hvalid
  | succ room ih =>
    by_cases hhere : IsValid text ⟨room + 1⟩
    · rw [cutFrom?_of_isValid hhere, Nat.le_antisymm hle (hlongest _ hhere (Nat.le_refl _))]
    · have hne : kept.utf8ByteSize ≠ room + 1 := fun heq => hhere (heq ▸ hvalid)
      rw [cutFrom?_of_not_isValid hhere]
      exact ih (by omega) fun byte hbyte hroom => hlongest byte hbyte (by omega)

theorem extract_append (front back : String) :
    String.Pos.Raw.extract (front ++ back) 0 ⟨front.utf8ByteSize⟩ = front := by
  have hextract := String.extract_of_valid [] front.toList back.toList
  rwa [List.nil_append, String.utf8Len_nil, Nat.zero_add, String.ofList_append, String.ofList_toList,
    String.ofList_toList, String.utf8Len_toList] at hextract

theorem truncated_eq_fitting (room : Nat) (text : String) :
    truncated room text = fitting room text := by
  obtain ⟨rest, hrest⟩ := exists_fitting_append room text
  have hcut := extract_append (fitting room text) rest
  rw [← hrest] at hcut
  rw [truncated, (isFitting_fitting room text).cutFrom?_eq]
  exact hcut

theorem Warning.given_eq (now : Instant) (message : String) :
    Warning.given now message = ⟨fitting Warning.maxBytes message, now⟩ := by
  rw [given]
  split_ifs with hlong
  · rw [truncated_eq_fitting]
  · rw [fitting_eq_self (Nat.not_lt.mp hlong)]

/-! ## The warnings that are kept -/

/-- The time and the message of the warning that is given, if it is one. -/
def Action.told? {σ : Type} : Action σ → Option (Instant × String)
  | warn now message => some (now, message)
  | _ => none

namespace Collection

variable {σ : Type} {c : Collection σ}

/-- The warnings as they are kept. -/
def warned (told : List (Instant × String)) : List Warning :=
  told.map fun (now, message) => Warning.given now message

theorem warnings_addMetric (c : Collection σ) (now : Instant) (path : String) (value : Value)
    (modifiers : List Modifier) :
    (c.addMetric now path value modifiers).value.1.warnings = c.warnings := by
  unfold addMetric
  split <;> rfl

theorem warnings_addWarning (h : c.warnings.length ≤ Warning.maxCount) (now : Instant)
    (message : String) : (c.addWarning now message).value.warnings =
      (c.warnings ++ [Warning.given now message]).take Warning.maxCount := by
  unfold addWarning
  split
  · next hfull => exact (List.take_left' (Nat.le_antisymm h hfull)).symm
  · next hroom =>
    refine (List.take_of_length_le ?_).symm
    rw [List.length_append, List.length_singleton]
    omega

theorem warnings_step (h : c.warnings.length ≤ Warning.maxCount) (a : Action σ) :
    (c.step a).warnings = (c.warnings ++ warned a.told?.toList).take Warning.maxCount := by
  have hsame : (c.warnings ++ warned []).take Warning.maxCount = c.warnings := by
    rw [warned, List.map_nil, List.append_nil, List.take_of_length_le h]
  cases a with
  | warn now message => exact warnings_addWarning h now message
  | addMetric now path value modifiers =>
    exact (warnings_addMetric c now path value modifiers).trans hsame.symm
  | register selector modifiers =>
    refine Eq.trans ?_ hsame.symm
    cases hregister : c.register selector modifiers with
    | error e => rw [step, perform, hregister]; rfl
    | ok registered =>
      obtain ⟨d, handle⟩ := registered
      obtain ⟨rfl, rfl⟩ := register_eq_ok hregister
      rw [step, perform, hregister]
      rfl
  | _ => exact hsame.symm

theorem take_take_append {α : Type} (l l' : List α) (n : Nat) :
    (l.take n ++ l').take n = (l ++ l').take n := by
  rw [List.take_append, List.take_append, List.take_take, Nat.min_self, List.length_take]
  congr 2
  omega

theorem warnings_run_of_le (h : c.warnings.length ≤ Warning.maxCount)
    (actions : List (Action σ)) :
    (c.run actions).warnings =
      (c.warnings ++ warned (actions.filterMap Action.told?)).take Warning.maxCount := by
  induction actions generalizing c with
  | nil =>
    rw [List.filterMap_nil, warned, List.map_nil, List.append_nil, List.take_of_length_le h]
    rfl
  | cons a actions ih =>
    have hstep := warnings_step h a
    have hroom : (c.step a).warnings.length ≤ Warning.maxCount := by
      rw [hstep]
      exact List.length_take_le _ _
    have htold : warned ((a :: actions).filterMap Action.told?) =
        warned a.told?.toList ++ warned (actions.filterMap Action.told?) := by
      rw [warned, warned, warned, ← List.map_append]
      cases htold : a.told? <;> simp [htold]
    calc (c.run (a :: actions)).warnings
        = ((c.step a).warnings ++ warned (actions.filterMap Action.told?)).take Warning.maxCount :=
          ih hroom
      _ = _ := by rw [hstep, take_take_append, List.append_assoc, htold]

/-- **A collection keeps the first 40 warnings that it is given, in their order, each with the
longest beginning of its message that has at most 256 bytes** and breaks no character; the search
for the end of this beginning, downwards from byte 256, always finds it. -/
theorem warnings_run (task : Task σ) (catalog : Catalog) (filters : Filters)
    (actions : List (Action σ)) :
    let c : Collection σ := { task, catalog, filters }
    (c.run actions).warnings = ((actions.filterMap Action.told?).take 40).map
      (fun (now, message) => ⟨fitting 256 message, now⟩) ∧
    ∀ message, IsFitting 256 message (fitting 256 message) ∧
      cutFrom? message 256 = some (fitting 256 message).utf8ByteSize ∧
      (message.utf8ByteSize ≤ 256 → fitting 256 message = message) ∧
      (256 < message.utf8ByteSize → 253 ≤ (fitting 256 message).utf8ByteSize ∧
        (fitting 256 message).utf8ByteSize ≤ 256) := by
  intro c
  refine ⟨?_, fun message => ?_⟩
  · have hrun := warnings_run_of_le (c := c) (Nat.zero_le _) actions
    rw [hrun, List.nil_append, warned, List.map_take]
    simp only [Warning.given_eq]
    rfl
  · have hfitting := isFitting_fitting 256 message
    refine ⟨hfitting, hfitting.cutFrom?_eq, fitting_eq_self, fun hlong => ⟨?_, hfitting.le⟩⟩
    have hfree := lt_utf8ByteSize_fitting hlong
    omega

end Collection

end Telemetry
