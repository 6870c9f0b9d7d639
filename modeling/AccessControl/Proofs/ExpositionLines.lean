import Mathlib.Data.List.DropRight
import AccessControl.Metrics.Exposition

/-!
# Reading an exposition

An exposition is read line by line: empty lines and comments are passed over, and each line that
remains is split at its last space into the name of a series and its value. A family says the same
to a reader as to its writer as long as nothing in it breaks its lines. Main statement: `read_text`.
-/

set_option autoImplicit false

namespace AccessControl.Exposition

/-- Whether a line is that of a series: it is neither empty nor a comment. -/
def isSeries (line : List Char) : Bool :=
  line.head?.any (· ≠ '#')

/-- What stands before the last space of a line, and what stands behind it. -/
def splitLast (line : List Char) : String × String :=
  (String.ofList (line.rdropWhile (· ≠ ' ')).dropLast, String.ofList (line.rtakeWhile (· ≠ ' ')))

/-- The series of a text, each with its name and its value. -/
def read (text : String) : List (String × String) :=
  ((text.toList.splitOn '\n').filter isSeries).map splitLast

/-- The names of the series of a family. -/
def Family.names (f : Family) : List String :=
  f.series.map (·.identity f.name)

/-- The series of a family, each with its name and its value. -/
def Family.listing (f : Family) : List (String × String) :=
  f.series.map fun s => (s.identity f.name, s.value)

/-- Whether a text can name a series: no comment begins like this, and there is no line break. -/
def CanName (text : String) : Prop :=
  isSeries text.toList = true ∧ '\n' ∉ text.toList

/-- Whether a text can be the value of a series: there is neither a space nor a line break. -/
def CanValue (text : String) : Prop :=
  ' ' ∉ text.toList ∧ '\n' ∉ text.toList

instance (text : String) : Decidable (CanName text) :=
  inferInstanceAs (Decidable (_ ∧ _))

/-- What a family has to keep to so that it can be read back. -/
structure Family.Readable (f : Family) : Prop where
  comments : '\n' ∉ (f.name ++ f.help ++ f.kind).toList
  names : ∀ name ∈ f.names, CanName name
  values : ∀ s ∈ f.series, CanValue s.value

/-- A character is missing from two texts in a row if it is missing from both. -/
theorem not_mem_toList_append_iff (c : Char) (a b : String) :
    c ∉ (a ++ b).toList ↔ c ∉ a.toList ∧ c ∉ b.toList := by
  rw [String.toList_append, List.mem_append, not_or]

/-! ## Lines -/

/-- A line break parts what is read. -/
theorem read_append_newline (a b : String) : read (a ++ "\n" ++ b) = read a ++ read b := by
  have hlist : (a ++ "\n" ++ b).toList = a.toList ++ '\n' :: b.toList := by
    rw [String.toList_append, String.toList_append, List.append_assoc]
    rfl
  unfold read
  rw [hlist, List.splitOn_append_cons_self, List.filter_append, List.map_append]

/-- A single line is read as one series, or passed over. -/
theorem read_line (line : String) (h : '\n' ∉ line.toList) :
    read line = ([line.toList].filter isSeries).map splitLast := by
  unfold read
  rw [List.splitOn_eq_singleton h]

/-- A comment says nothing to a reader. -/
theorem read_comment (comment : String) (h : '\n' ∉ comment.toList) :
    read ("# " ++ comment) = [] := by
  have hline : '\n' ∉ ("# " ++ comment).toList :=
    (not_mem_toList_append_iff _ _ _).mpr ⟨by decide, h⟩
  rw [read_line _ hline, String.toList_append]
  rfl

/-- A line is split at the last space, which is before the value if there is none in it. -/
theorem splitLast_append (name value : List Char) (h : ' ' ∉ value) :
    splitLast (name ++ ' ' :: value) = (String.ofList name, String.ofList value) := by
  have hvalue : ∀ c ∈ value.reverse, decide (c ≠ ' ') = true := by
    intro c hc
    rw [decide_eq_true_eq]
    rintro rfl
    exact h (List.mem_reverse.mp hc)
  have hreverse : (name ++ ' ' :: value).reverse = value.reverse ++ ' ' :: name.reverse := by
    simp
  unfold splitLast List.rdropWhile List.rtakeWhile
  rw [hreverse, List.takeWhile_append_of_pos hvalue, List.dropWhile_append_of_pos hvalue]
  simp

/-- What a line begins with decides whether it is that of a series. -/
theorem isSeries_append (cs ds : List Char) (h : isSeries cs = true) :
    isSeries (cs ++ ds) = true := by
  cases cs with
  | nil => cases h
  | cons c cs => exact h

/-- A line of a name, a space and a value is read as this name and this value. -/
theorem read_name_value (name value : String) (hname : CanName name) (hvalue : CanValue value) :
    read (name ++ " " ++ value) = [(name, value)] := by
  have hline : '\n' ∉ (name ++ " " ++ value).toList := by
    rw [not_mem_toList_append_iff, not_mem_toList_append_iff]
    exact ⟨⟨hname.2, by decide⟩, hvalue.2⟩
  have hlist : (name ++ " " ++ value).toList = name.toList ++ ' ' :: value.toList := by
    rw [String.toList_append, String.toList_append, List.append_assoc]
    rfl
  rw [read_line _ hline, hlist, List.filter_cons_of_pos (isSeries_append _ _ hname.1),
    List.filter_nil, List.map_singleton, splitLast_append _ _ hvalue.1, String.ofList_toList,
    String.ofList_toList]

/-! ## Families -/

/-- The lines of some series are read as their names and values. -/
theorem read_join_line (family : String) (series : List Series)
    (hnames : ∀ s ∈ series, CanName (s.identity family))
    (hvalues : ∀ s ∈ series, CanValue s.value) :
    read (String.join (series.map (·.line family))) =
      series.map fun s => (s.identity family, s.value) := by
  induction series with
  | nil => rfl
  | cons s series ih =>
      rw [List.forall_mem_cons] at hnames hvalues
      rw [List.map_cons, String.join_cons, Series.line, read_append_newline,
        read_name_value _ _ hnames.1 hvalues.1, ih hnames.2 hvalues.2]
      rfl

/-- Its two comments apart, a family is read as what it lists. -/
theorem read_family (f : Family) (h : f.Readable) : read f.text = f.listing := by
  have hcomments := h.comments
  rw [not_mem_toList_append_iff, not_mem_toList_append_iff] at hcomments
  obtain ⟨⟨hname, hhelp⟩, hkind⟩ := hcomments
  have hcomment (title rest : String) (htitle : '\n' ∉ title.toList) (hrest : '\n' ∉ rest.toList) :
      read ("# " ++ (title ++ f.name ++ " " ++ rest)) = [] := by
    apply read_comment
    simp only [not_mem_toList_append_iff]
    exact ⟨⟨⟨htitle, hname⟩, by decide⟩, hrest⟩
  have htext : f.text =
      "# " ++ ("HELP " ++ f.name ++ " " ++ f.help) ++ "\n" ++
        ("# " ++ ("TYPE " ++ f.name ++ " " ++ f.kind) ++ "\n" ++
          String.join (f.series.map (·.line f.name))) := by
    have hfirst : "# HELP " = "# " ++ "HELP " := rfl
    have hsecond : "# TYPE " = "# " ++ "TYPE " := rfl
    unfold Family.text
    rw [hfirst, hsecond]
    simp only [String.append_assoc]
  rw [htext, read_append_newline, read_append_newline, hcomment _ _ (by decide) hhelp,
    hcomment _ _ (by decide) hkind, read_join_line _ _ (List.forall_mem_map.mp h.names) h.values]
  rfl

/-- What is written is read back: the text of families lists what the families list. -/
theorem read_text (families : List Family) (h : ∀ f ∈ families, f.Readable) :
    read (text families) = families.flatMap Family.listing := by
  induction families with
  | nil => rfl
  | cons f families ih =>
      rw [List.forall_mem_cons] at h
      have hfirst := read_family f h.1
      have hrest := ih h.2
      -- There is a blank line between two families, but none behind the last.
      cases families with
      | nil =>
          have htext : text [f] = f.text := String.intercalate_singleton
          rw [htext, hfirst, List.flatMap_singleton]
      | cons g families =>
          have htext : text (f :: g :: families) = f.text ++ "\n" ++ text (g :: families) :=
            String.intercalate_cons_cons
          rw [htext, read_append_newline, hfirst, hrest, List.flatMap_cons (x := f)]

end AccessControl.Exposition
