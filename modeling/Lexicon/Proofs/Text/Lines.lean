namespace Lexicon.Text

abbrev Line := List Char

/-- The lines of a text. What follows the last line break counts as one more line. -/
def lines (s : String) : List Line := s.toList.splitOn '\n'

/-- The runs of lines between empty lines. -/
def sections (s : String) : List (List Line) := (lines s).splitOn []

/-- A line that neither is empty nor holds a line break. -/
def IsPrinted (line : Line) : Prop := line ≠ [] ∧ '\n' ∉ line

instance (line : Line) : Decidable (IsPrinted line) := inferInstanceAs (Decidable (_ ∧ _))

/-- A line that is written out is checked by its characters, without taking a text apart. -/
theorem isPrinted_ofList {cs : Line} (h : IsPrinted cs) : IsPrinted (String.ofList cs).toList := by
  rw [String.toList_ofList]
  exact h

def terminated {α : Type} (sep : α) (parts : List (List α)) : List α := parts.flatMap (· ++ [sep])

section
variable {α : Type} (sep : α)

theorem terminated_cons (part : List α) (parts : List (List α)) :
    terminated sep (part :: parts) = part ++ sep :: terminated sep parts := by
  rw [terminated, List.flatMap_cons, List.append_assoc]
  rfl

theorem terminated_append (front back : List (List α)) :
    terminated sep (front ++ back) = terminated sep front ++ terminated sep back :=
  List.flatMap_append

variable {sep}

/-- Splitting finds the parts again, and goes on behind the last separator. -/
theorem splitOn_terminated_append [BEq α] [LawfulBEq α] {parts : List (List α)}
    (h : ∀ part ∈ parts, sep ∉ part)
    (rest : List α) : (terminated sep parts ++ rest).splitOn sep = parts ++ rest.splitOn sep := by
  induction parts with
  | nil => rfl
  | cons part parts ih =>
    obtain ⟨hpart, hparts⟩ := List.forall_mem_cons.mp h
    rw [terminated_cons, List.append_assoc, List.cons_append,
      List.splitOn_append_cons_self_of_not_mem hpart, ih hparts]
    rfl

end

/-- Texts that are lines with their line breaks. -/
theorem flatMap_toList_of_lines {texts : List String} {ls : List Line}
    (h : texts.map (·.toList) = ls.map (· ++ ['\n'])) :
    texts.flatMap (·.toList) = terminated '\n' ls := by
  rw [List.flatMap_def, h, ← List.flatMap_def, terminated]

/-- Printed lines with empty lines between them are still lines. -/
theorem newline_not_mem_terminated {parts : List (List Line)}
    (hprinted : ∀ part ∈ parts, ∀ line ∈ part, IsPrinted line) :
    ∀ line ∈ terminated [] parts, '\n' ∉ line := by
  intro line hmem
  obtain ⟨part, hpart, hline⟩ := List.mem_flatMap.mp hmem
  rcases List.mem_append.mp hline with hline | hline
  · exact (hprinted part hpart line hline).2
  · rw [List.eq_of_mem_singleton hline]
    exact List.not_mem_nil

/-- A text that begins with whole sections: whatever follows them does not matter for reading
them. -/
theorem sections_eq {s : String} {parts : List (List Line)} {rest : List Char}
    (htext : s.toList = terminated '\n' (terminated [] parts) ++ rest)
    (hprinted : ∀ part ∈ parts, ∀ line ∈ part, IsPrinted line) :
    sections s = parts ++ (rest.splitOn '\n').splitOn [] := by
  have hnil : ∀ part ∈ parts, [] ∉ part :=
    fun part hpart hmem => (hprinted part hpart [] hmem).1 rfl
  -- the text splits into lines, none of which is empty within a section
  rw [sections, lines, htext, splitOn_terminated_append (newline_not_mem_terminated hprinted),
    splitOn_terminated_append hnil]

/-- A text whose last section is not followed by an empty line. -/
theorem sections_eq_of_last {s : String} {parts : List (List Line)} {last : List Line}
    (htext : s.toList = terminated '\n' (terminated [] parts ++ last))
    (hprinted : ∀ part ∈ parts ++ [last], ∀ line ∈ part, IsPrinted line) :
    sections s = parts ++ [last, []] := by
  have hlast : ∀ line ∈ last, IsPrinted line :=
    hprinted last (List.mem_append_right _ List.mem_cons_self)
  have hparts : ∀ part ∈ parts, ∀ line ∈ part, IsPrinted line :=
    fun part hpart => hprinted part (List.mem_append_left _ hpart)
  rw [terminated_append] at htext
  -- the last line break leaves an empty line, and with it an empty section
  have hrest : ((terminated '\n' last).splitOn '\n').splitOn [] = [last, []] := by
    rw [← List.append_nil (terminated '\n' last),
      splitOn_terminated_append fun line hline => (hlast line hline).2]
    exact List.splitOn_append_cons_self_of_not_mem (fun hmem => (hlast [] hmem).1 rfl) []
  rw [sections_eq htext hparts, hrest]

theorem isPrefixOf?_append [BEq α] [LawfulBEq α] (front rest : List α) :
    front.isPrefixOf? (front ++ rest) = some rest := by
  induction front with
  | nil => cases rest <;> rfl
  | cons a front ih =>
    change (if a == a then front.isPrefixOf? (front ++ rest) else none) = some rest
    rw [if_pos (beq_self_eq_true a)]
    exact ih

/-- Items that are read back one by one are read back in order. -/
theorem mapM_map_eq_some {α β γ : Type} {write : α → β} {read? : β → Option γ} {value : α → γ}
    {xs : List α}
    (h : ∀ x ∈ xs, read? (write x) = some (value x)) :
    (xs.map write).mapM read? = some (xs.map value) := by
  induction xs with
  | nil => rfl
  | cons x xs ih =>
    obtain ⟨hx, hxs⟩ := List.forall_mem_cons.mp h
    rw [List.map_cons, List.mapM_cons, hx, ih hxs]
    rfl

end Lexicon.Text
