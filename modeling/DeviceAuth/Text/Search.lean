/-! Finding a pattern in a text. -/

namespace DeviceAuth

namespace Text

def splitFirst? (pattern : List Char) : List Char → Option (List Char × List Char)
  | [] => if pattern.isEmpty then some ([], []) else none
  | first :: rest =>
      if pattern.isPrefixOf (first :: rest) then
        some ([], (first :: rest).drop pattern.length)
      else
        (splitFirst? pattern rest).map fun (before, after) => (first :: before, after)

theorem eq_of_splitFirst? {pattern text before after : List Char}
    (found : splitFirst? pattern text = some (before, after)) :
    text = before ++ pattern ++ after := by
  induction text generalizing before with
  | nil =>
      cases pattern <;> simp_all [splitFirst?]
  | cons first rest induction =>
      simp only [splitFirst?] at found
      split at found
      · rename_i starts
        obtain ⟨tail, equal⟩ := List.isPrefixOf_iff_prefix.mp starts
        simp only [Option.some.injEq, Prod.mk.injEq] at found
        obtain ⟨rfl, rfl⟩ := found
        simp [← equal]
      · cases inner : splitFirst? pattern rest with
        | none => simp [inner] at found
        | some pair =>
            obtain ⟨front, back⟩ := pair
            simp only [inner, Option.map_some, Option.some.injEq, Prod.mk.injEq] at found
            obtain ⟨rfl, rfl⟩ := found
            simp [induction inner]

def trimEnd (character : Char) (text : List Char) : List Char :=
  (text.reverse.dropWhile (· == character)).reverse

end Text

end DeviceAuth
