/-
  File:      Uprava/Lib/Framing.lean
  Subject:   A stream that is cut into frames while it arrives in chunks, with a limit on what is
             held back.

  Where a frame ends is known as soon as it has arrived (`Framing.next_append`). So the frames do
  not depend on the chunks (`frames_append`), as long as the reading is not given up. It is given
  up when what is held back and the next chunk are longer than the limit together: never before a
  stream that is within the limit ends (`read_within`), and at the latest in a frame that is longer
  (`read_complete`).
-/
import Mathlib.Data.List.Basic

namespace Uprava.Lib

/-- How the first frame of a buffer is found: the lengths of its content and of its delimiter. -/
structure Framing (β : Type) where
  next : List β → Option (Nat × Nat)
  next_pos : ∀ {b k}, next b = some k → 0 < k.2
  next_le : ∀ {b k}, next b = some k → k.1 + k.2 ≤ b.length
  next_append : ∀ {b k} (c : List β), next b = some k → next (b ++ c) = some k
  next_late : ∀ {b c k}, next b = none → next (b ++ c) = some k → b.length < k.1 + k.2

structure Frame (β : Type) where
  content : List β
  delimiter : List β
  deriving DecidableEq

variable {β : Type}

def Frame.bytes (f : Frame β) : List β := f.content ++ f.delimiter

/-- The bytes that frames are made of. -/
def bytesOf (frames : List (Frame β)) : List β := (frames.map Frame.bytes).flatten

namespace Framing

variable (F : Framing β)

/-- The complete frames, and what is left. -/
def frames (b : List β) : List (Frame β) × List β :=
  match _h : F.next b with
  | none => ([], b)
  | some k =>
    let r := frames (b.drop (k.1 + k.2))
    (⟨b.take k.1, (b.drop k.1).take k.2⟩ :: r.1, r.2)
termination_by b.length
decreasing_by
  have := F.next_pos _h
  have := F.next_le _h
  rw [List.length_drop]
  omega

/-- The frames of a whole stream: what is left at its end is one too. -/
def pieces (b : List β) : List (Frame β) :=
  (F.frames b).1 ++ if (F.frames b).2 = [] then [] else [⟨(F.frames b).2, []⟩]

/-- What a reading gave. -/
structure Reading (β : Type) where
  frames : List (Frame β)
  rest : List β
  overflow : Bool

/-- A reading, chunk by chunk. -/
def read (max : Nat) : List β → List (List β) → Reading β
  | b, [] => ⟨[], b, false⟩
  | b, chunk :: chunks =>
    if max < b.length + chunk.length then ⟨[], b, true⟩
    else
      let r := read max (F.frames (b ++ chunk)).2 chunks
      ⟨(F.frames (b ++ chunk)).1 ++ r.frames, r.rest, r.overflow⟩

/-! ## 1. The frames of a buffer -/

theorem frames_none {b : List β} (h : F.next b = none) : F.frames b = ([], b) := by
  rw [frames]
  split
  · rfl
  · rename_i heq
    rw [h] at heq
    cases heq

theorem frames_some {b : List β} {k : Nat × Nat} (h : F.next b = some k) :
    F.frames b = (⟨b.take k.1, (b.drop k.1).take k.2⟩ :: (F.frames (b.drop (k.1 + k.2))).1,
      (F.frames (b.drop (k.1 + k.2))).2) := by
  rw [frames]
  split
  · rename_i heq
    rw [h] at heq
    cases heq
  · rename_i heq
    rw [h] at heq
    cases heq
    rfl

theorem next_nil : F.next [] = none := by
  cases h : F.next [] with
  | none => rfl
  | some k =>
    have hpos := F.next_pos h
    have hle : k.1 + k.2 ≤ 0 := F.next_le h
    omega

@[simp] theorem frames_nil : F.frames [] = ([], []) := F.frames_none F.next_nil

/-- What is left holds no frame. -/
theorem next_rest (b : List β) : F.next (F.frames b).2 = none := by
  cases h : F.next b with
  | none =>
    rw [F.frames_none h]
    exact h
  | some k =>
    have := F.next_pos h
    have := F.next_le h
    rw [F.frames_some h]
    exact next_rest (b.drop (k.1 + k.2))
termination_by b.length
decreasing_by
  rw [List.length_drop]
  omega

/-- **The frames and the rest are the buffer.** -/
theorem bytesOf_frames (b : List β) : bytesOf (F.frames b).1 ++ (F.frames b).2 = b := by
  cases h : F.next b with
  | none =>
    rw [F.frames_none h]
    rfl
  | some k =>
    have := F.next_pos h
    have := F.next_le h
    have ih := bytesOf_frames (b.drop (k.1 + k.2))
    rw [F.frames_some h]
    show (b.take k.1 ++ (b.drop k.1).take k.2 ++ bytesOf _) ++ _ = b
    rw [List.append_assoc, ih, List.append_assoc, ← List.drop_drop, List.take_append_drop,
      List.take_append_drop]
termination_by b.length
decreasing_by
  rw [List.length_drop]
  omega

/-- **The frames do not depend on where the buffer is cut.** -/
theorem frames_append (b c : List β) :
    F.frames (b ++ c) = ((F.frames b).1 ++ (F.frames ((F.frames b).2 ++ c)).1,
      (F.frames ((F.frames b).2 ++ c)).2) := by
  cases h : F.next b with
  | none =>
    rw [F.frames_none h]
    rfl
  | some k =>
    have := F.next_pos h
    have hle := F.next_le h
    have ih := frames_append (b.drop (k.1 + k.2)) c
    rw [F.frames_some (F.next_append c h), F.frames_some h,
      List.drop_append_of_le_length hle, ih, List.take_append_of_le_length (by omega),
      List.drop_append_of_le_length (by omega), List.take_append_of_le_length
        (by rw [List.length_drop]; omega)]
    rfl
termination_by b.length
decreasing_by
  rw [List.length_drop]
  omega

/-- **The pieces are the stream.** -/
theorem bytesOf_pieces (b : List β) : bytesOf (F.pieces b) = b := by
  have h := F.bytesOf_frames b
  unfold pieces bytesOf
  rw [List.map_append, List.flatten_append]
  split
  · rename_i hnil
    rw [hnil] at h
    exact h
  · refine Eq.trans ?_ h
    simp [bytesOf, Frame.bytes]

/-- What comes before a piece are complete frames. -/
theorem prefix_frames {b : List β} {before rest : List (Frame β)} {f : Frame β}
    (h : F.pieces b = before ++ f :: rest) : before <+: (F.frames b).1 := by
  have hbefore : before <+: F.pieces b := ⟨f :: rest, h.symm⟩
  have hframes : (F.frames b).1 <+: F.pieces b := List.prefix_append _ _
  have hlen := congrArg List.length h
  have hshort : (if (F.frames b).2 = [] then [] else
      [(⟨(F.frames b).2, []⟩ : Frame β)]).length ≤ 1 := by
    split <;> simp
  refine List.prefix_of_prefix_length_le hbefore hframes ?_
  unfold pieces at hlen
  rw [List.length_append, List.length_append, List.length_cons] at hlen
  omega

theorem length_bytes_le {f : Frame β} {frames : List (Frame β)} (h : f ∈ frames) :
    f.bytes.length ≤ (bytesOf frames).length := by
  obtain ⟨before, rest, rfl⟩ := List.append_of_mem h
  unfold bytesOf
  rw [List.map_append, List.flatten_append, List.map_cons, List.flatten_cons, List.length_append,
    List.length_append]
  omega

/-! ## 2. Readings -/

variable {F} {max : Nat}

/-- **A reading that is not given up gives the frames of the whole stream, and none of them is
    longer than the limit.** -/
theorem read_complete {b : List β} {chunks : List (List β)} (hb : F.next b = none)
    (h : (F.read max b chunks).overflow = false) :
    ((F.read max b chunks).frames, (F.read max b chunks).rest) =
      F.frames (b ++ chunks.flatten) := by
  induction chunks generalizing b with
  | nil =>
    rw [List.flatten_nil, List.append_nil, F.frames_none hb]
    rfl
  | cons chunk chunks ih =>
    unfold read at h ⊢
    split at h
    · cases h
    · rename_i hle
      rw [if_neg hle]
      have ih' := ih (F.next_rest (b ++ chunk)) h
      rw [List.flatten_cons, ← List.append_assoc, F.frames_append (b ++ chunk), ← ih']

/-- What a reading has seen is the beginning of the frames of the stream. -/
theorem read_prefix {b : List β} {chunks : List (List β)} :
    (F.read max b chunks).frames <+: (F.frames (b ++ chunks.flatten)).1 := by
  induction chunks generalizing b with
  | nil => exact List.nil_prefix
  | cons chunk chunks ih =>
    rw [List.flatten_cons, ← List.append_assoc, F.frames_append]
    unfold read
    split
    · exact List.nil_prefix
    · exact (List.prefix_append_right_inj _).mpr ih

/-- What a reading has seen is within the limit. -/
theorem read_frames_le {b : List β} {chunks : List (List β)} {f : Frame β}
    (h : f ∈ (F.read max b chunks).frames) : f.bytes.length ≤ max := by
  induction chunks generalizing b with
  | nil => cases h
  | cons chunk chunks ih =>
    unfold read at h
    split at h
    · cases h
    · rename_i hle
      rcases List.mem_append.mp h with hf | hf
      · have hbytes := congrArg List.length (F.bytesOf_frames (b ++ chunk))
        have := length_bytes_le hf
        rw [List.length_append, List.length_append] at hbytes
        omega
      · exact ih hf

theorem rest_length_le (b : List β) : (F.frames b).2.length ≤ b.length := by
  have hbytes := congrArg List.length (F.bytesOf_frames b)
  rw [List.length_append] at hbytes
  omega

theorem read_rest_le {b : List β} {chunks : List (List β)} (hb : b.length ≤ max) :
    (F.read max b chunks).rest.length ≤ max := by
  induction chunks generalizing b with
  | nil => exact hb
  | cons chunk chunks ih =>
    unfold read
    split
    · exact hb
    · rename_i hle
      have := rest_length_le (F := F) (b ++ chunk)
      rw [List.length_append] at this
      exact ih (by omega)

/-- **Where a frame is longer than the limit, every reading is given up.** -/
theorem read_overflow_of_long {chunks : List (List β)} {f : Frame β}
    (hf : f ∈ F.pieces chunks.flatten) (hlong : max < f.bytes.length) :
    (F.read max [] chunks).overflow = true := by
  cases h : (F.read max [] chunks).overflow with
  | true => rfl
  | false =>
    have hall := read_complete F.next_nil h
    rw [List.nil_append] at hall
    unfold pieces at hf
    rw [← hall] at hf
    rcases List.mem_append.mp hf with hf | hf
    · exact absurd (read_frames_le hf) (Nat.not_le.mpr hlong)
    · split at hf
      · cases hf
      · cases List.mem_singleton.mp hf
        have := @read_rest_le β F max [] chunks (Nat.zero_le max)
        unfold Frame.bytes at hlong
        rw [List.append_nil] at hlong
        exact absurd this (Nat.not_le.mpr hlong)

/-- **A stream within the limit is read to its end.** -/
theorem read_within {b : List β} {chunks : List (List β)}
    (h : (b ++ chunks.flatten).length ≤ max) : (F.read max b chunks).overflow = false := by
  induction chunks generalizing b with
  | nil => rfl
  | cons chunk chunks ih =>
    rw [List.flatten_cons, List.length_append, List.length_append] at h
    have := rest_length_le (F := F) (b ++ chunk)
    rw [List.length_append] at this
    unfold read
    rw [if_neg (by omega)]
    exact ih (by rw [List.length_append]; omega)

/-- Nothing behind a frame is needed to find it. -/
theorem next_take {b : List β} {k : Nat × Nat} (h : F.next b = some k) :
    F.next (b.take (k.1 + k.2)) = some k := by
  have hle := F.next_le h
  rw [← List.take_append_drop (k.1 + k.2) b] at h
  cases htake : F.next (b.take (k.1 + k.2)) with
  | none =>
    have hlate := F.next_late htake h
    rw [List.length_take, Nat.min_eq_left hle] at hlate
    omega
  | some k' =>
    rw [F.next_append _ htake] at h
    exact h

/-- **A frame on its own is that frame.** -/
theorem frames_bytes {b : List β} {f : Frame β} (hf : f ∈ (F.frames b).1) :
    F.frames f.bytes = ([f], []) := by
  cases h : F.next b with
  | none =>
    rw [F.frames_none h] at hf
    cases hf
  | some k =>
    have := F.next_pos h
    have := F.next_le h
    rw [F.frames_some h] at hf
    rcases List.mem_cons.mp hf with rfl | hf
    · have hbytes : b.take k.1 ++ (b.drop k.1).take k.2 = b.take (k.1 + k.2) :=
        (List.take_add ..).symm
      have hone := F.frames_some (F.next_take h)
      rw [List.take_take, Nat.min_eq_left (Nat.le_add_right k.1 k.2), List.drop_take,
        Nat.add_sub_cancel_left, List.take_take, Nat.min_self, List.drop_take, Nat.sub_self,
        List.take_zero, frames_nil] at hone
      unfold Frame.bytes
      rw [hbytes]
      exact hone
    · exact frames_bytes hf
termination_by b.length
decreasing_by
  rw [List.length_drop]
  omega

/-- **Any of the frames may be the last before a chunk that is too long.** -/
theorem read_frames_then {before : List (Frame β)} {chunk : List β}
    (hwhole : ∀ f ∈ before, F.frames f.bytes = ([f], [])) (hle : ∀ f ∈ before, f.bytes.length ≤ max)
    (hlong : max < chunk.length) :
    F.read max [] (before.map Frame.bytes ++ [chunk]) = ⟨before, [], true⟩ := by
  induction before with
  | nil =>
    have : max < ([] : List β).length + chunk.length := by rwa [List.length_nil, Nat.zero_add]
    rw [List.map_nil, List.nil_append, read, if_pos this]
  | cons f before ih =>
    have hf : ¬ max < ([] : List β).length + f.bytes.length := by
      have := hle f List.mem_cons_self
      rw [List.length_nil]
      omega
    have hone := hwhole f List.mem_cons_self
    rw [List.map_cons, List.cons_append, read, if_neg hf, List.nil_append, hone]
    dsimp only
    rw [ih (fun g hg => hwhole g (List.mem_cons_of_mem f hg))
      (fun g hg => hle g (List.mem_cons_of_mem f hg))]
    rfl

end Framing

end Uprava.Lib
