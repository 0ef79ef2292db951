import Mathlib.Data.List.Basic
import QueryLexer.Source.Terminator

/-!
Cutting a text into lines and putting lines together. The lines of a source are what the terminators
separate: joined, they are the source, and none has a terminator in it; there is no other way to separate
it. Two texts put together share a line where they meet, unless a terminator stands across that place, so
a terminator between two texts cuts there, whatever the texts are.
-/

namespace QueryLexer.Terminator

def join (terminator : Terminator) (lines : List (List Char)) : String :=
  String.ofList (List.intercalate terminator.text.toList lines)

/-- The terminator stands between the lines of the source, and in none of them. -/
def Separates (terminator : Terminator) (source : String) (lines : List (List Char)) : Prop :=
  terminator.join lines = source ∧ ∀ text ∈ lines, ¬ terminator.text.toList <:+: text

theorem lines_ne_nil (terminator : Terminator) (text : List Char) : terminator.lines text ≠ [] := by
  fun_cases Terminator.lines terminator text with
  | case1 => simp
  | case2 => simp
  | case3 => simp
  | case4 terminator c rest => cases terminator.lines rest <;> simp [extendFirst]

/-- A terminator stands at the head of the text. -/
def Begins : Terminator → List Char → Prop
  | lf, text => text.head? = some '\n'
  | crlf, text => text.head? = some '\r' ∧ text[1]? = some '\n'

theorem lines_cons (terminator : Terminator) (c : Char) (rest : List Char)
    (plain : ¬ terminator.Begins (c :: rest)) :
    terminator.lines (c :: rest) = extendFirst c (terminator.lines rest) := by
  rw [Terminator.lines]
  · rintro rfl rfl
    exact plain rfl
  · rintro later rfl rfl rfl
    exact plain ⟨rfl, rfl⟩

-- The last equation of `lines` comes with these two conditions.
theorem not_begins (terminator : Terminator) (c : Char) (rest : List Char)
    (noFeed : terminator = lf → c = '\n' → False)
    (noReturn : ∀ later, terminator = crlf → c = '\r' → rest = '\n' :: later → False) :
    ¬ terminator.Begins (c :: rest) := by
  cases terminator with
  | lf => exact fun same => noFeed rfl (Option.some.inj same)
  | crlf =>
      rintro ⟨first, next⟩
      cases rest with
      | nil => simp at next
      | cons d later => exact noReturn later rfl (Option.some.inj first) (by simpa using next)

/-- A terminator stands across the place where the two texts meet. -/
def Seam : Terminator → List Char → List Char → Prop
  | lf, _, _ => False
  | crlf, first, second => first.getLast? = some '\r' ∧ second.head? = some '\n'

theorem seam_cons (terminator : Terminator) (c : Char) (first second : List Char)
    (seam : terminator.Seam first second) : terminator.Seam (c :: first) second := by
  cases terminator with
  | lf => exact seam
  | crlf =>
      rcases seam with ⟨last, head⟩
      exact ⟨by rw [List.getLast?_cons, last]; rfl, head⟩

theorem not_begins_seamless (terminator : Terminator) (c : Char) (rest second : List Char)
    (plain : ¬ terminator.Begins (c :: rest)) (seamless : ¬ terminator.Seam (c :: rest) second) :
    ¬ terminator.Begins (c :: (rest ++ second)) := by
  cases terminator with
  | lf => exact plain
  | crlf =>
      rintro ⟨first, next⟩
      cases rest with
      | cons d later => exact plain ⟨first, next⟩
      | nil =>
          rw [List.nil_append, List.getElem?_cons_succ, ← List.head?_eq_getElem?] at next
          exact seamless ⟨first, next⟩

theorem lines_seamless (terminator : Terminator) (first second : List Char)
    (seamless : ¬ terminator.Seam first second) :
    ∃ above last head below, terminator.lines first = above ++ [last] ∧
      terminator.lines second = head :: below ∧
      terminator.lines (first ++ second) = above ++ (last ++ head) :: below := by
  fun_induction Terminator.lines terminator first with
  | case1 terminator =>
      rcases List.exists_cons_of_ne_nil (terminator.lines_ne_nil second) with ⟨head, below, lines⟩
      exact ⟨[], [], head, below, rfl, lines, lines⟩
  | case2 rest ih =>
      rcases ih seamless with ⟨above, last, head, below, upper, lower, whole⟩
      refine ⟨[] :: above, last, head, below, by simp [upper], lower, ?_⟩
      simpa [lines] using whole
  | case3 rest ih =>
      have later : ¬ crlf.Seam rest second := by
        intro seam
        exact seamless (seam_cons crlf _ _ _ (seam_cons crlf _ _ _ seam))
      rcases ih later with ⟨above, last, head, below, upper, lower, whole⟩
      refine ⟨[] :: above, last, head, below, by simp [upper], lower, ?_⟩
      simpa [lines] using whole
  | case4 terminator c rest noFeed noReturn ih =>
      have plain := not_begins terminator c rest noFeed noReturn
      rcases ih fun seam => seamless (seam_cons terminator c rest second seam) with
        ⟨above, last, head, below, upper, lower, whole⟩
      have joined := lines_cons terminator c _ (not_begins_seamless terminator c rest second plain seamless)
      rw [whole] at joined
      cases above with
      | nil => exact ⟨[], c :: last, head, below, by rw [upper]; rfl, lower, joined⟩
      | cons text later =>
          exact ⟨(c :: text) :: later, last, head, below, by rw [upper]; rfl, lower, joined⟩

theorem lines_append (terminator : Terminator) (first second : List Char) :
    terminator.lines (first ++ (terminator.text.toList ++ second)) =
      terminator.lines first ++ terminator.lines second := by
  have cut : terminator.lines (terminator.text.toList ++ second) = [] :: terminator.lines second := by
    cases terminator <;> simp [text, lines]
  have seamless : ¬ terminator.Seam first (terminator.text.toList ++ second) := by
    cases terminator <;> simp [Seam, text]
  rcases terminator.lines_seamless first _ seamless with
    ⟨above, last, head, below, upper, lower, whole⟩
  rcases List.cons.inj (cut.symm.trans lower) with ⟨rfl, rfl⟩
  rw [whole, upper, List.append_nil, List.append_assoc, List.singleton_append]

theorem prefix_of_begins (terminator : Terminator) (text : List Char) (begins : terminator.Begins text) :
    terminator.text.toList <+: text := by
  cases terminator with
  | lf =>
      rcases List.head?_eq_some_iff.mp begins with ⟨rest, rfl⟩
      exact ⟨rest, rfl⟩
  | crlf =>
      rcases begins with ⟨first, next⟩
      rcases List.head?_eq_some_iff.mp first with ⟨rest, rfl⟩
      rw [List.getElem?_cons_succ, ← List.head?_eq_getElem?] at next
      rcases List.head?_eq_some_iff.mp next with ⟨later, rfl⟩
      exact ⟨later, rfl⟩

theorem lines_of_not_infix (terminator : Terminator) (text : List Char)
    (single : ¬ terminator.text.toList <:+: text) : terminator.lines text = [text] := by
  induction text with
  | nil => cases terminator <;> rfl
  | cons c rest ih =>
      have plain : ¬ terminator.Begins (c :: rest) := by
        intro begins
        exact single (prefix_of_begins terminator _ begins).isInfix
      have inside : ¬ terminator.text.toList <:+: rest := by
        intro later
        exact single (later.trans (List.suffix_cons c rest).isInfix)
      rw [lines_cons terminator c rest plain, ih inside]
      rfl

-- There is one way only to separate a source into lines.
theorem lines_of_separates (terminator : Terminator) (source : String) (lines : List (List Char))
    (nonempty : lines ≠ []) (separates : terminator.Separates source lines) :
    terminator.lines source.toList = lines := by
  rcases separates with ⟨rfl, single⟩
  rw [join, String.toList_ofList]
  induction lines with
  | nil => exact absurd rfl nonempty
  | cons text later ih =>
      have head := lines_of_not_infix terminator text (single text List.mem_cons_self)
      cases later with
      | nil => rw [List.intercalate_singleton, head]
      | cons next below =>
          rw [List.intercalate_cons_cons, List.append_assoc, lines_append, head]
          rw [ih (List.cons_ne_nil _ _) (fun line member => single line (List.mem_cons_of_mem text member))]
          rfl

theorem lines_join (terminator : Terminator) (lines : List (List Char)) (nonempty : lines ≠ [])
    (single : ∀ text ∈ lines, '\n' ∉ text) : terminator.lines (terminator.join lines).toList = lines := by
  have feed : '\n' ∈ terminator.text.toList := by cases terminator <;> decide
  apply lines_of_separates terminator _ lines nonempty
  constructor
  · rfl
  · intro text member inside
    exact single text member (inside.subset feed)

theorem intercalate_extendFirst (separator : List Char) (c : Char) (lines : List (List Char))
    (nonempty : lines ≠ []) :
    List.intercalate separator (extendFirst c lines) = c :: List.intercalate separator lines := by
  cases lines with
  | nil => exact absurd rfl nonempty
  | cons line later => cases later <;> simp [extendFirst, List.intercalate_cons_cons]

theorem intercalate_nil_cons (separator : List Char) (lines : List (List Char)) (nonempty : lines ≠ []) :
    List.intercalate separator ([] :: lines) = separator ++ List.intercalate separator lines := by
  obtain ⟨line, later, rfl⟩ := List.exists_cons_of_ne_nil nonempty
  simp [List.intercalate_cons_cons]

theorem intercalate_lines (terminator : Terminator) (source : List Char) :
    List.intercalate terminator.text.toList (terminator.lines source) = source := by
  fun_induction Terminator.lines terminator source with
  | case1 => simp
  | case2 rest ih => rw [intercalate_nil_cons _ _ (lines_ne_nil _ _), ih]; simp [text]
  | case3 rest ih => rw [intercalate_nil_cons _ _ (lines_ne_nil _ _), ih]; simp [text]
  | case4 terminator c rest _ _ ih => rw [intercalate_extendFirst _ _ _ (lines_ne_nil _ _), ih]

theorem head_of_first_line (terminator : Terminator) (source first : List Char)
    (later : List (List Char)) (d : Char) (lines : terminator.lines source = first :: later)
    (head : first.head? = some d) : source.head? = some d := by
  revert lines
  fun_cases Terminator.lines terminator source with
  | case1 => rintro ⟨⟩; simp at head
  | case2 rest => rintro ⟨⟩; simp at head
  | case3 rest => rintro ⟨⟩; simp at head
  | case4 terminator c rest _ _ =>
      intro lines
      cases below : terminator.lines rest with
      | nil => exact absurd below (lines_ne_nil _ _)
      | cons line more =>
          rw [below, extendFirst] at lines
          obtain ⟨rfl, _⟩ := List.cons.inj lines
          exact head

theorem begins_of_head_line (terminator : Terminator) (c : Char) (rest first : List Char)
    (later : List (List Char)) (lines : terminator.lines rest = first :: later)
    (head : terminator.text.toList <+: c :: first) : terminator.Begins (c :: rest) := by
  obtain ⟨tail, same⟩ := head
  cases terminator with
  | lf => exact congrArg List.head? same.symm
  | crlf =>
      obtain ⟨rfl, next⟩ := List.cons.inj same
      have feed := head_of_first_line crlf rest first later '\n' lines (by rw [← next]; rfl)
      exact ⟨rfl, by simpa [List.head?_eq_getElem?] using feed⟩

theorem not_infix_of_mem_lines (terminator : Terminator) (source : List Char) :
    ∀ text ∈ terminator.lines source, ¬ terminator.text.toList <:+: text := by
  have blank : ∀ terminator : Terminator, ¬ terminator.text.toList <:+: [] := by
    intro terminator
    cases terminator <;> simp [text]
  fun_induction Terminator.lines terminator source with
  | case1 terminator => simpa using blank terminator
  | case2 rest ih =>
      intro line member
      rcases List.mem_cons.mp member with rfl | below
      · exact blank lf
      · exact ih line below
  | case3 rest ih =>
      intro line member
      rcases List.mem_cons.mp member with rfl | below
      · exact blank crlf
      · exact ih line below
  | case4 terminator c rest noFeed noReturn ih =>
      have plain := not_begins terminator c rest noFeed noReturn
      cases lines : terminator.lines rest with
      | nil => exact absurd lines (lines_ne_nil _ _)
      | cons first later =>
          rw [lines] at ih
          intro line member inside
          rcases List.mem_cons.mp member with rfl | below
          · rcases List.infix_cons_iff.mp inside with head | tail
            · exact plain (begins_of_head_line terminator c rest first later lines head)
            · exact ih first (by simp) tail
          · exact ih line (List.mem_cons_of_mem first below) inside

theorem separates_lines (terminator : Terminator) (source : String) :
    terminator.Separates source (terminator.lines source.toList) := by
  constructor
  · rw [join, intercalate_lines, String.ofList_toList]
  · exact not_infix_of_mem_lines terminator source.toList

end QueryLexer.Terminator
