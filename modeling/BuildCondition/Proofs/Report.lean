import BuildCondition.Report

/-!
# The place that a report shows

A condition is cut into lines behind each mark that ends one, and nothing is lost (§1). The place of
a failure lies in one of them: the characters of the lines before it and those in front of the place
are as many as there are before the failure, or as there are in all (§2). A report names the line
and the character, and shows the line without the blanks at its end and with spaces for all other
blanks (§3).
-/

namespace BuildCondition.Report

open BuildCondition.Text

variable {cs line mark rest : List Char} {c : Char} {ls done : List (List Char)}

/-! ## §1  Lines -/

/-- The marks that end a line: a line feed, with or without a carriage return before it, and six
other characters. -/
def lineMarks : List (List Char) :=
  ['\r', '\n'] :: lineEnds.map fun c => [c]

/-- No line ends in this text. -/
def IsPlain (line : List Char) : Prop :=
  ∀ c ∈ line, c ∉ lineEnds

/-- A text is cut into lines. Each but the last has a mark at its end, and nowhere else; a carriage
return and a line feed are not cut apart. The last line is not empty unless it is the only one. -/
inductive CutIntoLines : List Char → List (List Char) → Prop where
  | single {line : List Char} (hplain : IsPlain line) : CutIntoLines line [line]
  | ended {line mark : List Char} (hplain : IsPlain line) (hmark : mark ∈ lineMarks) :
      CutIntoLines (line ++ mark) [line ++ mark]
  | cons {line mark rest : List Char} {ls : List (List Char)} (hplain : IsPlain line)
      (hmark : mark ∈ lineMarks) (hpair : mark = ['\r'] → rest.head? ≠ some '\n') (hne : rest ≠ [])
      (hrest : CutIntoLines rest ls) : CutIntoLines (line ++ (mark ++ rest)) ((line ++ mark) :: ls)

theorem linesFrom_plain (hplain : IsPlain line) (done : List (List Char)) (begun : List Char) :
    linesFrom done begun (line ++ rest) = linesFrom done (line.reverse ++ begun) rest := by
  induction line generalizing begun with
  | nil => rfl
  | cons c line ih =>
      obtain ⟨hc, hline⟩ := List.forall_mem_cons.mp hplain
      have hends : endsLine c (line ++ rest) = false := by simp [endsLine, hc]
      rw [List.cons_append, linesFrom, if_neg (by simp [hends]), ih hline]
      simp

theorem linesFrom_mark (hmark : mark ∈ lineMarks) (hpair : mark = ['\r'] → rest.head? ≠ some '\n')
    (done : List (List Char)) (begun : List Char) :
    linesFrom done begun (mark ++ rest) = linesFrom ((begun.reverse ++ mark) :: done) [] rest := by
  rcases List.mem_cons.mp hmark with rfl | hone
  · -- the carriage return does not end the line, as a line feed follows
    simp [linesFrom, endsLine, lineEnds]
  · obtain ⟨c, hc, rfl⟩ := List.mem_map.mp hone
    have hnot : (c == '\r' && rest.head? == some '\n') = false := by
      refine Bool.eq_false_iff.mpr fun hboth => ?_
      simp only [Bool.and_eq_true, beq_iff_eq] at hboth
      exact hpair (by rw [hboth.1]) hboth.2
    have hends : endsLine c rest = true := by simp [endsLine, hc, hnot]
    rw [List.singleton_append, linesFrom, if_pos hends, List.reverse_cons]

theorem linesFrom_of_cutIntoLines (h : CutIntoLines cs ls) (hdone : done = [] ∨ cs ≠ []) :
    linesFrom done [] cs = done.reverse ++ ls := by
  induction h generalizing done with
  | @single line hplain =>
      have hwalk : linesFrom done [] (line ++ []) = linesFrom done (line.reverse ++ []) [] :=
        linesFrom_plain hplain done []
      rw [List.append_nil, List.append_nil] at hwalk
      rw [hwalk]
      rcases hdone with rfl | hne
      · simp [linesFrom]
      · simp [linesFrom, hne]
  | @ended line mark hplain hmark =>
      have hwalk : linesFrom done line.reverse (mark ++ []) =
          linesFrom ((line.reverse.reverse ++ mark) :: done) [] [] :=
        linesFrom_mark hmark (fun _ => by simp) done line.reverse
      rw [List.append_nil, List.reverse_reverse] at hwalk
      rw [linesFrom_plain hplain, List.append_nil, hwalk]
      simp [linesFrom]
  | @cons line mark rest ls hplain hmark hpair hne hrest ih =>
      rw [linesFrom_plain hplain, List.append_nil, linesFrom_mark hmark hpair, List.reverse_reverse,
        ih (.inr hne)]
      simp

/-- A text is plain, or it has a first mark. -/
theorem isPlain_or_exists_mark (cs : List Char) :
    IsPlain cs ∨ ∃ line mark rest, IsPlain line ∧ mark ∈ lineMarks ∧
      (mark = ['\r'] → rest.head? ≠ some '\n') ∧ cs = line ++ (mark ++ rest) := by
  induction cs with
  | nil => exact .inl (List.forall_mem_nil _)
  | cons c cs ih =>
      by_cases hc : c ∈ lineEnds
      · refine .inr ?_
        by_cases hpair : c = '\r' ∧ cs.head? = some '\n'
        · obtain ⟨rfl, hhead⟩ := hpair
          obtain ⟨rest, rfl⟩ := List.head?_eq_some_iff.mp hhead
          exact ⟨[], ['\r', '\n'], rest, List.forall_mem_nil _, List.mem_cons_self, by simp, rfl⟩
        · refine ⟨[], [c], cs, List.forall_mem_nil _,
            List.mem_cons_of_mem _ (List.mem_map_of_mem hc), fun hreturn hhead => ?_, rfl⟩
          exact hpair ⟨(List.cons.inj hreturn).1, hhead⟩
      · rcases ih with hplain | ⟨line, mark, rest, hplain, hmark, hpair, rfl⟩
        · exact .inl (List.forall_mem_cons.mpr ⟨hc, hplain⟩)
        · have hline : IsPlain (c :: line) := List.forall_mem_cons.mpr ⟨hc, hplain⟩
          exact .inr ⟨c :: line, mark, rest, hline, hmark, hpair, rfl⟩

theorem exists_cutIntoLines (cs : List Char) : ∃ ls, CutIntoLines cs ls := by
  induction hlength : cs.length using Nat.strongRecOn generalizing cs with
  | ind n ih =>
      rcases isPlain_or_exists_mark cs with hplain | ⟨line, mark, rest, hplain, hmark, hpair, rfl⟩
      · exact ⟨_, .single hplain⟩
      · by_cases hne : rest = []
        · rw [hne, List.append_nil]
          exact ⟨_, .ended hplain hmark⟩
        · have hpos : 0 < mark.length := by
            rcases List.mem_cons.mp hmark with rfl | hone
            · decide
            · obtain ⟨c, _, rfl⟩ := List.mem_map.mp hone
              exact Nat.one_pos
          rw [List.length_append, List.length_append] at hlength
          obtain ⟨ls, hls⟩ := ih rest.length (by omega) rest rfl
          exact ⟨_, .cons hplain hmark hpair hne hls⟩

/-- There is one way to cut a text into lines. -/
theorem cutIntoLines_iff : CutIntoLines cs ls ↔ ls = lines cs := by
  have hlines : ∀ {ls}, CutIntoLines cs ls → ls = lines cs :=
    fun h => (linesFrom_of_cutIntoLines h (.inl rfl)).symm
  refine ⟨hlines, ?_⟩
  rintro rfl
  obtain ⟨ls, hls⟩ := exists_cutIntoLines cs
  rwa [← hlines hls]

/-! ## §2  The place in its line -/

/-- A place in a line that has others before it and behind it, numbered from `first`. It is in the
line, or at the end of the last one. -/
structure Spot.LiesBetween (s : Spot) (first n : Nat) (before after : List (List Char)) : Prop where
  number_eq : s.number = first + before.length
  column_eq : before.flatten.length + s.column = n
  inside : s.column < s.line.length ∨ after = []

theorem spotFrom_liesBetween (first n : Nat) (line : List Char) (more : List (List Char)) :
    ∃ before after, line :: more = before ++ (spotFrom first n line more).line :: after ∧
      (spotFrom first n line more).LiesBetween first n before after := by
  induction more generalizing first n line with
  | nil => exact ⟨[], [], rfl, rfl, by simp [spotFrom], .inr rfl⟩
  | cons next more ih =>
      rw [spotFrom]
      by_cases hn : line.length ≤ n
      · rw [if_pos hn]
        obtain ⟨before, after, hsplit, hlies⟩ := ih (first + 1) (n - line.length) next
        refine ⟨line :: before, after, by rw [hsplit]; rfl, ?_, ?_, hlies.inside⟩
        · rw [hlies.number_eq, List.length_cons]
          omega
        · have hcolumn := hlies.column_eq
          rw [List.flatten_cons, List.length_append]
          omega
      · rw [if_neg hn]
        exact ⟨[], next :: more, rfl, rfl, by simp, .inl (Nat.lt_of_not_le hn)⟩

theorem spot_liesBetween (n : Nat) (cs : List Char) :
    ∃ before after, lines cs = before ++ (spot n cs).line :: after ∧
      (spot n cs).LiesBetween 1 n before after := by
  obtain ⟨line, more, hlines⟩ : ∃ line more, lines cs = line :: more := by
    obtain ⟨ls, hls⟩ := exists_cutIntoLines cs
    rw [← cutIntoLines_iff.mp hls]
    cases hls <;> exact ⟨_, _, rfl⟩
  have hspot : spot n cs = spotFrom 1 n line more := by rw [spot, hlines]
  rw [hspot, hlines]
  exact spotFrom_liesBetween 1 n line more

/-- A carriage return ends no line in front of a line feed, and nothing follows the last end. -/
example : spot 4 "a\r\nb\n".toList = ⟨2, 1, ['b', '\n']⟩ ∧
    spot 5 "a\r\nb\n".toList = ⟨2, 2, ['b', '\n']⟩ := by decide

/-! ## §3  The report -/

/-- A line as it is shown: a tab reaches to the next multiple of four characters, and every other
blank is one space. -/
def shown (line : List Char) : List Char :=
  line.zipIdx.flatMap fun (c, i) =>
    if c = '\t' then List.replicate (4 - i % 4) ' ' else if isBlank c then [' '] else [c]

theorem showOnto_eq (done : List Char) (column : Nat) (line : List Char) :
    showOnto done column line = done.reverse ++ (line.zipIdx column).flatMap fun (c, i) =>
      if c = '\t' then List.replicate (4 - i % 4) ' ' else if isBlank c then [' '] else [c] := by
  induction line generalizing done column with
  | nil => simp [showOnto]
  | cons c line ih =>
      have htab : isBlank '\t' = true := by decide
      rw [showOnto, ih, List.zipIdx_cons, List.flatMap_cons]
      by_cases hc : c = '\t'
      · subst hc
        simp [columnsAt, htab]
      · by_cases hblank : isBlank c = true
        · simp [columnsAt, hc, hblank]
        · simp [hc, hblank]

/-- What a report has below the line of the condition. -/
def foot (s : Spot) (message : String) : String :=
  let margin := spaces ((toString s.number).length + 2)
  let pointers := pointer s message
  margin ++ "│ " ++ pointers.1 ++ "\n" ++
    (margin ++ "│ " ++ pointers.2 ++ "\n" ++
      (String.ofList (List.replicate ((toString s.number).length + 2) '─') ++ "╯\n"))

theorem text_eq (f : Failure) :
    let s := spotOf f
    let number := toString s.number
    let margin := spaces (number.length + 2)
    text f =
      "[" ++ f.cause.code ++ "] Error: " ++ f.cause.summary ++ "\n" ++
      margin ++ "╭─[ " ++ sourceName f.place ++ ":" ++ number ++ ":" ++ toString (s.column + 1) ++
        " ]\n" ++
      margin ++ "│\n" ++
      " " ++ number ++ " │ " ++ String.ofList (shown (trimEnd s.line)) ++ "\n" ++
      foot s f.message := by
  have hshown : showOnto [] 0 (trimEnd (spotOf f).line) = shown (trimEnd (spotOf f).line) :=
    showOnto_eq [] 0 _
  simp only [text, hshown, foot, String.join_cons, String.append_assoc]
  rfl

/-- **A report names the place of its failure.** The condition can be cut into lines in one way. The
heading has the number of a line and of a character in it, before which there are as many characters
as before the failure; a failure that is not placed is put at the beginning, and one behind the
condition at its end. The line is shown without the blanks at its end. -/
theorem text_names_place (f : Failure) :
    ∃ before line after column,
      (∀ ls, CutIntoLines f.condition.toList ls ↔ ls = before ++ line :: after) ∧
      before.flatten.length + column = min (max f.position 1 - 1) f.condition.length ∧
      (column < line.length ∨ after = []) ∧
      ∃ below,
        let number := toString (before.length + 1)
        let margin := spaces (number.length + 2)
        text f =
          "[" ++ f.cause.code ++ "] Error: " ++ f.cause.summary ++ "\n" ++
          margin ++ "╭─[ " ++ sourceName f.place ++ ":" ++ number ++ ":" ++ toString (column + 1) ++
            " ]\n" ++
          margin ++ "│\n" ++
          " " ++ number ++ " │ " ++ String.ofList (shown (trimEnd line)) ++ "\n" ++ below := by
  obtain ⟨before, after, hlines, hlies⟩ :=
    spot_liesBetween (min (f.position - 1) f.condition.toList.length) f.condition.toList
  have hposition : max f.position 1 - 1 = f.position - 1 := by omega
  have hnumber : (spotOf f).number = before.length + 1 := hlies.number_eq.trans (Nat.add_comm _ _)
  refine ⟨before, (spotOf f).line, after, (spotOf f).column, fun ls => ?_, ?_, hlies.inside,
    foot (spotOf f) f.message, ?_⟩
  · rw [cutIntoLines_iff, hlines]
    rfl
  · rw [hposition, ← String.length_toList]
    exact hlies.column_eq
  · rw [← hnumber]
    exact text_eq f

end BuildCondition.Report
