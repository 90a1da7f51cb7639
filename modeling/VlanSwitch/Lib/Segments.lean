import Mathlib.Data.List.Basic
import Mathlib.Data.List.Infix

/-!
# A stream read in pieces

A stream arrives in pieces, cut anywhere, and a reader collects them until it has what
it wants: `Segments.collect`. What it has collected in the end depends on the cuts, but
not in every respect. It is a prefix of the stream (`Segments.collect_prefix`), and
unless it is all of it, it is what the reader wanted (`Segments.collect_full`); so
whatever can be read off any wanted prefix alike does not depend on the cuts. And if the
reader wants no more than so many elements, it gets no more than that and one piece
(`Segments.length_collect_lt`).
-/

namespace Segments

variable {α : Type*}

/-- Adds pieces to what there is, as long as that is not enough. -/
def collect (full : List α → Prop) [DecidablePred full] : List α → List (List α) → List α
  | buf, [] => buf
  | buf, piece :: pieces =>
    if full buf then buf else collect full (buf ++ piece) pieces

variable {full : List α → Prop} [DecidablePred full]

variable (full) in
/-- What is collected is a prefix of the stream. -/
theorem collect_prefix (buf : List α) (pieces : List (List α)) :
    collect full buf pieces <+: buf ++ pieces.flatten := by
  induction pieces generalizing buf with
  | nil => simp [collect]
  | cons piece pieces ih =>
    rw [collect, List.flatten_cons]
    split
    · exact List.prefix_append _ _
    · rw [← List.append_assoc]
      exact ih (buf ++ piece)

variable (full) in
/-- **Collecting ends with enough, or with the stream.** -/
theorem collect_full (buf : List α) (pieces : List (List α)) :
    full (collect full buf pieces) ∨ collect full buf pieces = buf ++ pieces.flatten := by
  induction pieces generalizing buf with
  | nil => exact Or.inr (List.append_nil buf).symm
  | cons piece pieces ih =>
    rw [collect, List.flatten_cons]
    split
    · next hfull => exact Or.inl hfull
    · rw [← List.append_assoc]
      exact ih (buf ++ piece)

/-- **At most one piece too much is collected.** -/
theorem length_collect_lt {cap size : ℕ} (hcap : ∀ l : List α, cap ≤ l.length → full l)
    {buf : List α} {pieces : List (List α)} (hsize : ∀ piece ∈ pieces, piece.length ≤ size)
    (hbuf : buf.length < cap + size) : (collect full buf pieces).length < cap + size := by
  induction pieces generalizing buf with
  | nil => exact hbuf
  | cons piece pieces ih =>
    rw [List.forall_mem_cons] at hsize
    rw [collect]
    split
    · exact hbuf
    · next hnot =>
      refine ih hsize.2 ?_
      have hlt : buf.length < cap := Nat.lt_of_not_le (mt (hcap buf) hnot)
      have hpiece := hsize.1
      rw [List.length_append]
      omega

end Segments
