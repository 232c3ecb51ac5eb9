import DeviceAuth.Text.Search
import Mathlib.Data.List.Infix

/-! Where a pattern occurs first. A text is split at the first occurrence of a pattern if no
other occurrence begins earlier; what stands after the pattern has no part in this. -/

namespace DeviceAuth

namespace Text

/-- A pattern occurs in a text between two parts, and not before. -/
structure SplitsAtFirst (pattern text before after : List Char) : Prop where
  text_eq : text = before ++ pattern ++ after
  first : ∀ front back, text = front ++ pattern ++ back → before.length ≤ front.length

variable {pattern text before after : List Char}

theorem splitFirst?_eq_none_iff :
    splitFirst? pattern text = none ↔ ¬ pattern <:+: text := by
  induction text with
  | nil => cases pattern <;> simp [splitFirst?]
  | cons first rest induction =>
      rw [splitFirst?, List.infix_cons_iff, ← List.isPrefixOf_iff_prefix, not_or]
      by_cases starts : pattern.isPrefixOf (first :: rest) = true
      · simp [starts]
      · simp [starts, induction]

theorem first_of_splitFirst? (found : splitFirst? pattern text = some (before, after)) :
    ∀ front back, text = front ++ pattern ++ back → before.length ≤ front.length := by
  induction text generalizing before with
  | nil =>
      intro front back _
      rw [splitFirst?] at found
      split at found
      next =>
        obtain ⟨rfl, _⟩ := Prod.mk.inj (Option.some.inj found)
        exact Nat.zero_le _
      next => cases found
  | cons first rest induction =>
      intro front back split
      rw [splitFirst?] at found
      split at found
      next =>
        obtain ⟨rfl, _⟩ := Prod.mk.inj (Option.some.inj found)
        exact Nat.zero_le _
      next starts =>
        obtain ⟨⟨left, right⟩, inner, equal⟩ := Option.map_eq_some_iff.mp found
        obtain ⟨rfl, rfl⟩ := Prod.mk.inj equal
        cases front with
        | nil =>
            refine absurd (List.isPrefixOf_iff_prefix.mpr ?_) starts
            exact ⟨back, split.symm⟩
        | cons head tail =>
            obtain ⟨_, restSplit⟩ := List.cons.inj split
            exact Nat.succ_le_succ (induction inner tail back restSplit)

namespace SplitsAtFirst

theorem unique (splits : SplitsAtFirst pattern text before after) {front back : List Char}
    (other : SplitsAtFirst pattern text front back) : before = front ∧ after = back := by
  have same : before.length = front.length :=
    Nat.le_antisymm (splits.first front back other.text_eq)
      (other.first before after splits.text_eq)
  have equal : before ++ (pattern ++ after) = front ++ (pattern ++ back) := by
    rw [← List.append_assoc, ← List.append_assoc, ← splits.text_eq, ← other.text_eq]
  obtain ⟨fronts, backs⟩ := List.append_inj equal same
  exact ⟨fronts, List.append_cancel_left backs⟩

theorem replaceAfter (splits : SplitsAtFirst pattern text before after) (other : List Char) :
    SplitsAtFirst pattern (before ++ pattern ++ other) before other where
  text_eq := rfl
  first := by
    intro front back split
    by_contra earlier
    -- An occurrence that begins earlier ends before the pattern does, so the text has it too.
    have short : (front ++ pattern).length ≤ (before ++ pattern).length := by
      simp only [List.length_append]
      omega
    obtain ⟨between, inside⟩ : front ++ pattern <+: before ++ pattern :=
      List.prefix_of_prefix_length_le ⟨back, split.symm⟩ (List.prefix_append _ other) short
    apply earlier
    apply splits.first front (between ++ after)
    rw [splits.text_eq, ← inside, List.append_assoc]

theorem infix_text (splits : SplitsAtFirst pattern text before after) : pattern <:+: text :=
  ⟨before, after, splits.text_eq.symm⟩

end SplitsAtFirst

theorem splitFirst?_eq_some_iff :
    splitFirst? pattern text = some (before, after) ↔
      SplitsAtFirst pattern text before after := by
  have splits_of_found : ∀ {before after}, splitFirst? pattern text = some (before, after) →
      SplitsAtFirst pattern text before after :=
    fun found => ⟨eq_of_splitFirst? found, first_of_splitFirst? found⟩
  constructor
  · exact splits_of_found
  · intro splits
    cases found : splitFirst? pattern text with
    | none => exact absurd splits.infix_text (splitFirst?_eq_none_iff.mp found)
    | some parts =>
        obtain ⟨rfl, rfl⟩ := splits.unique (splits_of_found found)
        rfl

theorem SplitsAtFirst.of_not_mem {head : Char} {rest : List Char} {before after : List Char}
    (absent : head ∉ before) :
    SplitsAtFirst (head :: rest) (before ++ head :: rest ++ after) before after where
  text_eq := rfl
  first := by
    intro front back split
    by_contra shorter
    -- An occurrence that begins earlier begins in the characters before.
    have inside : before ++ (head :: rest ++ after) = front ++ (head :: (rest ++ back)) := by
      simpa using split
    have within : head ∈ before := by
      have place : (before ++ (head :: rest ++ after))[front.length]? = some head := by
        rw [inside, List.getElem?_append_right (Nat.le_refl _), Nat.sub_self]
        rfl
      rw [List.getElem?_append_left (by omega)] at place
      exact List.mem_of_getElem? place
    exact absent within

/-- A pattern that does not occur in a text does not occur either when other characters are put
before the text, unless it begins in them. -/
theorem not_infix_append {head : Char} {rest front text : List Char} (absent : head ∉ front)
    (unmarked : ¬ head :: rest <:+: text) : ¬ head :: rest <:+: front ++ text := by
  induction front with
  | nil => exact unmarked
  | cons first others induction =>
      rw [List.cons_append, List.infix_cons_iff, not_or]
      constructor
      · intro starts
        exact List.ne_of_not_mem_cons absent (List.cons_prefix_cons.mp starts).1
      · exact induction (List.not_mem_of_not_mem_cons absent)

end Text

end DeviceAuth
