/-
Where the offsets of a source are.

An offset of a source is either where a character begins or the source ends, or it is inside a
character.  In both cases the source falls into three parts: the lines that are over, what of
the current line is in front of the offset, and the rest.  Everything that is asked about
an offset can be read off these parts (`Position`): its line is counted by the first one, and its
column by the second.

That the table of the lines says the same rests on one fact about its order.  The starts of
the lines ascend, so the line of an offset is the last one that does not begin behind it, and
halving the table never loses that place (`narrow_eq`).  As the first line begins at zero, such
a place exists; so the search never ends in front of the table, and no step fails.
-/
import Listeners.Text.LineIndex
import Mathlib.Data.List.DropRight
import Mathlib.Data.List.Count

namespace Listeners

namespace Text

/-! ### The size of a text -/

@[simp] theorem byteSize_nil : byteSize [] = 0 := rfl

@[simp] theorem byteSize_cons (c : Char) (cs : List Char) :
    byteSize (c :: cs) = c.utf8Size + byteSize cs := rfl

@[simp] theorem byteSize_append (as bs : List Char) :
    byteSize (as ++ bs) = byteSize as + byteSize bs := by
  induction as with
  | nil => exact (Nat.zero_add _).symm
  | cons a as ih => rw [List.cons_append, byteSize_cons, byteSize_cons, ih, Nat.add_assoc]

theorem utf8ByteSize_ofList (cs : List Char) : (String.ofList cs).utf8ByteSize = byteSize cs := by
  induction cs with
  | nil => rfl
  | cons c cs ih =>
      rw [show c :: cs = [c] ++ cs from rfl, String.ofList_append, String.utf8ByteSize_append, ih,
        byteSize_append]
      congr 1
      exact String.utf8ByteSize_singleton

theorem utf8ByteSize_eq (s : String) : s.utf8ByteSize = byteSize s.toList := by
  rw [← utf8ByteSize_ofList, String.ofList_toList]

theorem length_le_byteSize (cs : List Char) : cs.length ≤ byteSize cs := by
  induction cs with
  | nil => exact Nat.le_refl 0
  | cons c cs ih =>
      have hpos := c.utf8Size_pos
      rw [List.length_cons, byteSize_cons]
      omega

/-! ### Slices -/

theorem cutAt?_cons {offset : Nat} (h : 0 < offset) (c : Char) (cs : List Char) :
    cutAt? offset (c :: cs) =
      if c.utf8Size ≤ offset then
        (cutAt? (offset - c.utf8Size) cs).map fun (before, after) => (c :: before, after)
      else none := by
  cases offset with
  | zero => exact absurd h (Nat.lt_irrefl 0)
  | succ offset => rfl

theorem cutAt?_byteSize (before after : List Char) :
    cutAt? (byteSize before) (before ++ after) = some (before, after) := by
  induction before with
  | nil => simp [cutAt?]
  | cons c before ih =>
      have hpos := c.utf8Size_pos
      rw [List.cons_append, byteSize_cons, cutAt?_cons (by omega), if_pos (by omega),
        Nat.add_sub_cancel_left, ih]
      rfl

/-- A text is only cut where a character begins or the text ends. -/
theorem eq_of_cutAt? {offset : Nat} {cs before after : List Char}
    (h : cutAt? offset cs = some (before, after)) :
    cs = before ++ after ∧ byteSize before = offset := by
  induction cs generalizing offset before with
  | nil =>
      cases offset with
      | zero =>
          cases h
          exact ⟨rfl, rfl⟩
      | succ offset => cases h
  | cons c cs ih =>
      by_cases hzero : offset = 0
      · subst hzero
        simp only [cutAt?, Option.some.injEq, Prod.mk.injEq] at h
        obtain ⟨rfl, rfl⟩ := h
        exact ⟨rfl, rfl⟩
      · rw [cutAt?_cons (by omega)] at h
        by_cases hsize : c.utf8Size ≤ offset
        · rw [if_pos hsize, Option.map_eq_some_iff] at h
          obtain ⟨⟨front, rest⟩, hcut, heq⟩ := h
          obtain ⟨rfl, rfl⟩ := Prod.mk.inj heq
          obtain ⟨rfl, hfront⟩ := ih hcut
          refine ⟨rfl, ?_⟩
          rw [byteSize_cons]
          omega
        · rw [if_neg hsize] at h
          cases h

theorem slice?_append (before slice after : List Char) :
    slice? (before ++ (slice ++ after)) (byteSize before) (byteSize before + byteSize slice) =
      some slice := by
  rw [slice?, if_pos (by omega), cutAt?_byteSize, Nat.add_sub_cancel_left]
  show (cutAt? (byteSize slice) (slice ++ after)).bind _ = _
  rw [cutAt?_byteSize]
  rfl

/-- No slice ends inside a character. -/
theorem slice?_inside (before slice : List Char) (c : Char) (after : List Char) {offset : Nat}
    (hfirst : byteSize before + byteSize slice < offset)
    (hlast : offset < byteSize before + byteSize slice + c.utf8Size) :
    slice? (before ++ (slice ++ c :: after)) (byteSize before) offset = none := by
  rw [slice?, if_pos (by omega), cutAt?_byteSize]
  show (cutAt? (offset - byteSize before) (slice ++ c :: after)).bind _ = none
  cases hcut : cutAt? (offset - byteSize before) (slice ++ c :: after) with
  | none => rfl
  | some parts =>
      obtain ⟨front, rest⟩ := parts
      obtain ⟨heq, hsize⟩ := eq_of_cutAt? hcut
      -- Either the cut is in front of the character or the character is in front of the cut.
      rcases List.append_eq_append_iff.mp heq with ⟨more, rfl, hmore⟩ | ⟨more, rfl, -⟩
      · cases more with
        | nil =>
            simp only [byteSize_append, byteSize_nil] at hsize
            omega
        | cons d more =>
            obtain ⟨rfl, -⟩ := List.cons.inj hmore
            simp only [byteSize_append, byteSize_cons] at hsize
            omega
      · simp only [byteSize_append] at hfirst hlast
        omega

end Text

open Text

/-! ### Searching a table -/

namespace Sought

/-- The place of a number among ascending ones: the last whose number is not beyond it. -/
structure IsLast (table : Array Nat) (sought place : Nat) (value : Nat) : Prop where
  value_eq : table[place]? = some value
  value_le : value ≤ sought
  lt_later : ∀ later number, table[later]? = some number → place < later → sought < number
  earlier_le : ∀ earlier number, table[earlier]? = some number → earlier ≤ place → number ≤ value

/-- Halving the table keeps the place that is sought. -/
theorem narrow_eq {table : Array Nat} {sought place value : Nat}
    (h : IsLast table sought place value) {first size : Nat} (hfirst : first ≤ place)
    (hplace : place < first + size) (hsize : first + size ≤ table.size) :
    narrow table sought first size = some place := by
  induction size using Nat.strong_induction_on generalizing first with
  | _ size ih =>
      rw [narrow]
      by_cases hone : size ≤ 1
      · rw [if_pos hone]
        congr 1
        omega
      · have hmiddle : first + size / 2 < table.size := by omega
        have hentry : table[first + size / 2]? = some table[first + size / 2] :=
          Array.getElem?_eq_getElem hmiddle
        rw [if_neg hone]
        show (table[first + size / 2]?).bind _ = some place
        rw [hentry]
        show narrow table sought (if sought < table[first + size / 2] then first
          else first + size / 2) (size - size / 2) = some place
        by_cases hlt : sought < table[first + size / 2]
        · have hbefore : place < first + size / 2 := by
            by_contra hge
            have hle := h.earlier_le _ _ hentry (Nat.le_of_not_lt hge)
            have hvalue := h.value_le
            omega
          rw [if_pos hlt]
          exact ih _ (by omega) hfirst (by omega) (by omega)
        · have hafter : first + size / 2 ≤ place := by
            by_contra hlater
            exact hlt (h.lt_later _ _ hentry (Nat.lt_of_not_le hlater))
          rw [if_neg hlt]
          exact ih _ (by omega) hafter (by omega) (by omega)

theorem search_eq {table : Array Nat} {sought place value : Nat}
    (h : IsLast table sought place value) :
    search table sought = some (if value = sought then .found place else .missing (place + 1)) := by
  have hplace : place < table.size := by
    by_contra hge
    have hentry := h.value_eq
    rw [Array.getElem?_eq_none (Nat.le_of_not_lt hge)] at hentry
    cases hentry
  rw [search, if_neg (by omega), narrow_eq h (Nat.zero_le place) (by omega) (by omega)]
  show (table[place]?).bind _ = _
  rw [h.value_eq]
  show some _ = some _
  by_cases heq : value = sought
  · rw [if_pos heq, if_pos heq]
  · have hlt : value < sought := Nat.lt_of_le_of_ne h.value_le heq
    rw [if_neg heq, if_neg heq, if_pos hlt]

end Sought

/-! ### The parts of a source around an offset -/

/-- The lines of a source that are over at an offset, the characters of the current line in front
of it, and the rest.  The rest begins at the offset or with the character around it. -/
structure Position (source : List Char) (offset : Nat) (lines line rest : List Char) : Prop where
  source_eq : source = lines ++ (line ++ rest)
  lines_end : lines = [] ∨ ∃ earlier, lines = earlier ++ ['\n']
  line_clean : '\n' ∉ line
  reached : byteSize lines + byteSize line = offset ∨
    ∃ c after, rest = c :: after ∧ byteSize lines + byteSize line < offset ∧
      offset < byteSize lines + byteSize line + c.utf8Size

/-- Any text is made of lines that are over and one that is not. -/
theorem exists_lines (cs : List Char) :
    ∃ lines line, cs = lines ++ line ∧ (lines = [] ∨ ∃ earlier, lines = earlier ++ ['\n']) ∧
      '\n' ∉ line := by
  refine ⟨cs.rdropWhile (· ≠ '\n'), cs.rtakeWhile (· ≠ '\n'),
    (List.rdropWhile_append_rtakeWhile ..).symm, ?_, ?_⟩
  · by_cases hnil : cs.rdropWhile (· ≠ '\n') = []
    · exact Or.inl hnil
    · have hlast := List.rdropWhile_last_not (· ≠ '\n') cs hnil
      refine Or.inr ⟨(cs.rdropWhile (· ≠ '\n')).dropLast, ?_⟩
      have hfeed : (cs.rdropWhile (· ≠ '\n')).getLast hnil = '\n' := by simpa using hlast
      have hsplit := List.dropLast_append_getLast hnil
      rw [hfeed] at hsplit
      exact hsplit.symm
  · intro hmem
    have := List.mem_rtakeWhile_imp hmem
    simp at this

/-- Every offset of a source has a position. -/
theorem exists_position {source : List Char} {offset : Nat} (h : offset ≤ byteSize source) :
    ∃ lines line rest, Position source offset lines line rest := by
  -- First the characters in front of the offset are found, and then their lines.
  have hcut : ∃ before rest, source = before ++ rest ∧ (byteSize before = offset ∨
      ∃ c after, rest = c :: after ∧ byteSize before < offset ∧
        offset < byteSize before + c.utf8Size) := by
    induction source generalizing offset with
    | nil =>
        rw [byteSize_nil] at h
        exact ⟨[], [], rfl, Or.inl (by rw [byteSize_nil]; omega)⟩
    | cons c cs ih =>
        rw [byteSize_cons] at h
        by_cases hzero : offset = 0
        · exact ⟨[], c :: cs, rfl, Or.inl (by rw [byteSize_nil, hzero])⟩
        · by_cases hsize : c.utf8Size ≤ offset
          · obtain ⟨before, rest, rfl, hreached⟩ :=
              ih (show offset - c.utf8Size ≤ byteSize cs by omega)
            refine ⟨c :: before, rest, rfl, ?_⟩
            rw [byteSize_cons]
            rcases hreached with hreached | ⟨d, after, hrest, hfirst, hlast⟩
            · exact Or.inl (by omega)
            · exact Or.inr ⟨d, after, hrest, by omega, by omega⟩
          · refine ⟨[], c :: cs, rfl, Or.inr ⟨c, cs, rfl, ?_, ?_⟩⟩
            · rw [byteSize_nil]
              omega
            · rw [byteSize_nil]
              omega
  obtain ⟨before, rest, rfl, hreached⟩ := hcut
  obtain ⟨lines, line, rfl, hend, hclean⟩ := exists_lines before
  rw [byteSize_append] at hreached
  exact ⟨lines, line, rest, List.append_assoc .., hend, hclean, hreached⟩

namespace Position

variable {source lines line rest : List Char} {offset : Nat}

/-- How many columns are in front of an offset: characters where one of them ends there, and
bytes inside a character. -/
def columns (lines line : List Char) (offset : Nat) : Nat :=
  if byteSize lines + byteSize line = offset then line.length else offset - byteSize lines

theorem byteSize_le (h : Position source offset lines line rest) :
    byteSize lines + byteSize line ≤ offset := by
  rcases h.reached with hreached | ⟨c, after, -, hfirst, -⟩
  · omega
  · omega

theorem columns_le (h : Position source offset lines line rest) :
    columns lines line offset ≤ offset := by
  have hle := h.byteSize_le
  have hlength := length_le_byteSize line
  unfold columns
  split
  · omega
  · omega

/-! ### The table of a source -/

theorem startsFrom_append (here : Nat) (as bs : List Char) :
    LineIndex.startsFrom here (as ++ bs) =
      LineIndex.startsFrom here as ++ LineIndex.startsFrom (here + byteSize as) bs := by
  induction as generalizing here with
  | nil => rfl
  | cons c as ih =>
      rw [List.cons_append, LineIndex.startsFrom, LineIndex.startsFrom, byteSize_cons,
        ← Nat.add_assoc]
      by_cases hc : c = '\n'
      · rw [if_pos hc, if_pos hc, ih, List.cons_append]
      · rw [if_neg hc, if_neg hc, ih]

theorem length_startsFrom (here : Nat) (cs : List Char) :
    (LineIndex.startsFrom here cs).length = cs.count '\n' := by
  induction cs generalizing here with
  | nil => rfl
  | cons c cs ih =>
      rw [LineIndex.startsFrom]
      by_cases hc : c = '\n'
      · rw [if_pos hc, List.length_cons, ih, hc, List.count_cons_self]
      · rw [if_neg hc, ih, List.count_cons_of_ne hc]

/-- The starts of the lines are behind the place where a text begins, and no later than its
end. -/
theorem bounds_of_mem_startsFrom {here start : Nat} {cs : List Char}
    (h : start ∈ LineIndex.startsFrom here cs) :
    here < start ∧ start ≤ here + byteSize cs := by
  induction cs generalizing here with
  | nil => cases h
  | cons c cs ih =>
      have hpos := c.utf8Size_pos
      have hrest : start ∈ LineIndex.startsFrom (here + c.utf8Size) cs →
          here < start ∧ start ≤ here + byteSize (c :: cs) := by
        intro hmem
        obtain ⟨hfirst, hlast⟩ := ih hmem
        rw [byteSize_cons]
        omega
      rw [LineIndex.startsFrom] at h
      by_cases hc : c = '\n'
      · rw [if_pos hc] at h
        rcases List.mem_cons.mp h with rfl | hmem
        · rw [byteSize_cons]
          omega
        · exact hrest hmem
      · rw [if_neg hc] at h
        exact hrest h

/-- The starts of the lines are behind the end of the first character. -/
theorem lt_of_mem_startsFrom_cons {here start : Nat} {c : Char} {cs : List Char}
    (h : start ∈ LineIndex.startsFrom here (c :: cs)) : here + c.utf8Size ≤ start := by
  rw [LineIndex.startsFrom] at h
  by_cases hc : c = '\n'
  · rw [if_pos hc] at h
    rcases List.mem_cons.mp h with rfl | hmem
    · exact Nat.le_refl _
    · exact Nat.le_of_lt (bounds_of_mem_startsFrom hmem).1
  · rw [if_neg hc] at h
    exact Nat.le_of_lt (bounds_of_mem_startsFrom h).1

/-- A text that ends with a line feed ends where a line starts. -/
theorem getLast?_starts (h : lines = [] ∨ ∃ earlier, lines = earlier ++ ['\n']) :
    (0 :: LineIndex.startsFrom 0 lines)[lines.count '\n']? = some (byteSize lines) := by
  rcases h with rfl | ⟨earlier, rfl⟩
  · rfl
  · have hfeed : LineIndex.startsFrom (0 + byteSize earlier) ['\n'] = [byteSize earlier + 1] := by
      rw [Nat.zero_add]
      rfl
    rw [startsFrom_append, hfeed, List.count_append, ← List.cons_append,
      List.getElem?_append_right (by rw [List.length_cons, length_startsFrom]; simp),
      List.length_cons, length_startsFrom, byteSize_append]
    simp
    rfl

theorem startsFrom_of_not_mem {cs : List Char} (h : '\n' ∉ cs) (here : Nat) :
    LineIndex.startsFrom here cs = [] := by
  refine List.eq_nil_of_length_eq_zero ?_
  rw [length_startsFrom, List.count_eq_zero]
  exact h

/-- The table of a source: the starts of the lines up to the current one, and the others. -/
theorem toList_starts (h : Position source offset lines line rest) :
    (LineIndex.ofSource source).starts.toList =
      (0 :: LineIndex.startsFrom 0 lines) ++
        LineIndex.startsFrom (byteSize lines + byteSize line) rest := by
  show 0 :: LineIndex.startsFrom 0 source = _
  rw [h.source_eq, startsFrom_append, startsFrom_append, startsFrom_of_not_mem h.line_clean,
    Nat.zero_add, List.nil_append, List.cons_append]

/-- The lines behind the current one begin behind the offset. -/
theorem lt_of_mem_later (h : Position source offset lines line rest) {start : Nat}
    (hstart : start ∈ LineIndex.startsFrom (byteSize lines + byteSize line) rest) :
    offset < start := by
  rcases h.reached with hreached | ⟨c, after, rfl, -, hlast⟩
  · have hbounds := bounds_of_mem_startsFrom hstart
    omega
  · have hsize := lt_of_mem_startsFrom_cons hstart
    omega

/-- The line of an offset is the last one that does not begin behind it. -/
theorem isLast (h : Position source offset lines line rest) :
    Sought.IsLast (LineIndex.ofSource source).starts offset (lines.count '\n')
      (byteSize lines) := by
  have hlength : (0 :: LineIndex.startsFrom 0 lines).length = lines.count '\n' + 1 := by
    rw [List.length_cons, length_startsFrom]
  have hle := h.byteSize_le
  refine ⟨?_, by omega, ?_, ?_⟩
  · rw [← Array.getElem?_toList, h.toList_starts, List.getElem?_append_left (by omega)]
    exact getLast?_starts h.lines_end
  · intro later number hnumber hlater
    rw [← Array.getElem?_toList, h.toList_starts,
      List.getElem?_append_right (by omega)] at hnumber
    exact h.lt_of_mem_later (List.mem_of_getElem? hnumber)
  · intro earlier number hnumber hearlier
    rw [← Array.getElem?_toList, h.toList_starts, List.getElem?_append_left (by omega)] at hnumber
    rcases List.mem_cons.mp (List.mem_of_getElem? hnumber) with rfl | hmem
    · exact Nat.zero_le _
    · have hbounds := bounds_of_mem_startsFrom hmem
      omega

/-! ### The location of an offset -/

theorem columns?_eq (h : Position source offset lines line rest) :
    LineIndex.columns? source (byteSize lines) offset = some (columns lines line offset) := by
  have hle := h.byteSize_le
  unfold LineIndex.columns? columns
  rw [h.source_eq]
  rcases h.reached with hreached | ⟨c, after, rfl, hfirst, hlast⟩
  · rw [if_pos hreached, ← hreached, slice?_append]
  · have hne : byteSize lines + byteSize line ≠ offset := by omega
    have hstart : byteSize lines ≤ offset := by omega
    rw [if_neg hne, slice?_inside lines line c after hfirst hlast]
    exact if_pos hstart

theorem line?_ite (found : Prop) [Decidable found] (place : Nat) :
    LineIndex.line? (if found then .found place else .missing (place + 1)) = some place := by
  by_cases h : found
  · rw [if_pos h]
    rfl
  · rw [if_neg h]
    rfl

theorem fromOne?_eq {n : Nat} (h : n + 1 < UInt32.size) :
    LineIndex.fromOne? n = some (UInt32.ofNat (n + 1)) := by
  have hn : (UInt32.ofNat n).toNat = n := UInt32.toNat_ofNat_of_lt' (by omega)
  rw [LineIndex.fromOne?, hn, if_pos h, UInt32.ofNat_add]
  rfl

/-- No step fails on the way to a location, and it is read off the position. -/
theorem location?_eq {offset : UInt32} (hsize : byteSize source + 1 < UInt32.size)
    (h : Position source (min offset.toNat (byteSize source)) lines line rest) :
    (LineIndex.ofSource source).location? offset =
      some ⟨.ofNat (lines.count '\n' + 1),
        .ofNat (columns lines line (min offset.toNat (byteSize source)) + 1)⟩ := by
  have hmin : min offset.toNat (byteSize source) ≤ byteSize source := Nat.min_le_right ..
  have hle := h.byteSize_le
  have hcount : lines.count '\n' ≤ byteSize lines :=
    Nat.le_trans List.count_le_length (length_le_byteSize lines)
  have hline : LineIndex.fromOne? (lines.count '\n') = some (.ofNat (lines.count '\n' + 1)) :=
    fromOne?_eq (by omega)
  have hcolumn : LineIndex.fromOne? (columns lines line (min offset.toNat (byteSize source))) =
      some (.ofNat (columns lines line (min offset.toNat (byteSize source)) + 1)) := by
    have hcolumns := h.columns_le
    exact fromOne?_eq (by omega)
  have hsource : (LineIndex.ofSource source).source = source := rfl
  unfold LineIndex.location?
  simp only [hsource, Sought.search_eq h.isLast, line?_ite, h.isLast.value_eq, h.columns?_eq,
    hline, hcolumn, Option.bind_eq_bind, Option.bind_some]

/-! ### Going through the text -/

/-- Past the characters of a line in front of an offset. -/
theorem find_line {line : List Char} (hclean : '\n' ∉ line) (rest : List Char)
    {offset count column start here : Nat} (h : here + byteSize line ≤ offset) :
    Location.find offset count column start here (line ++ rest) =
      Location.find offset count (column + line.length) start (here + byteSize line) rest := by
  induction line generalizing column here with
  | nil => rfl
  | cons c line ih =>
      have hpos := c.utf8Size_pos
      rw [byteSize_cons] at h
      have hc : c ≠ '\n' := fun hc => hclean (hc ▸ List.mem_cons_self)
      have hrest : '\n' ∉ line := fun hmem => hclean (List.mem_cons_of_mem c hmem)
      rw [List.cons_append, Location.find, if_neg (by omega), if_neg (by omega), if_neg hc,
        ih hrest (by omega), List.length_cons, byteSize_cons, Nat.add_assoc here,
        Nat.add_comm line.length, Nat.add_assoc column]

/-- Past the lines that are over at an offset. -/
theorem find_lines (earlier rest : List Char) {offset count column start here : Nat}
    (h : here + byteSize (earlier ++ ['\n']) ≤ offset) :
    Location.find offset count column start here (earlier ++ '\n' :: rest) =
      Location.find offset (count + (earlier ++ ['\n']).count '\n') 1
        (here + byteSize (earlier ++ ['\n'])) (here + byteSize (earlier ++ ['\n'])) rest := by
  induction earlier generalizing count column start here with
  | nil =>
      have hfeed : byteSize ([] ++ ['\n']) = '\n'.utf8Size := rfl
      have hpos := '\n'.utf8Size_pos
      rw [hfeed] at h ⊢
      rw [List.nil_append, Location.find, if_neg (by omega), if_neg (by omega), if_pos rfl]
      rfl
  | cons c earlier ih =>
      have hpos := c.utf8Size_pos
      rw [List.cons_append, byteSize_cons] at h
      rw [List.cons_append, List.cons_append, byteSize_cons, Location.find, if_neg (by omega),
        if_neg (by omega)]
      by_cases hc : c = '\n'
      · rw [if_pos hc, ih (by omega), hc, List.count_cons_self]
        congr 1
        · omega
        · omega
        · omega
      · rw [if_neg hc, ih (by omega), List.count_cons_of_ne hc, Nat.add_assoc]

/-- Going through the text comes to the same line and column. -/
theorem find_eq (h : Position source offset lines line rest) :
    Location.find offset 1 1 0 0 source =
      (lines.count '\n' + 1, columns lines line offset + 1) := by
  have hle := h.byteSize_le
  have hlines : Location.find offset 1 1 0 0 source =
      Location.find offset (lines.count '\n' + 1) 1 (byteSize lines) (byteSize lines)
        (line ++ rest) := by
    rw [h.source_eq]
    rcases h.lines_end with rfl | ⟨earlier, rfl⟩
    · rfl
    · rw [List.append_assoc, List.singleton_append, find_lines earlier _ (by omega), Nat.zero_add,
        Nat.add_comm 1]
  rw [hlines, find_line h.line_clean rest (by omega)]
  unfold columns
  rcases h.reached with hreached | ⟨c, after, rfl, hfirst, hlast⟩
  · rw [if_pos hreached, hreached, Nat.add_comm 1]
    cases rest with
    | nil => rfl
    | cons c rest => rw [Location.find, if_pos (Nat.le_refl offset)]
  · have hne : byteSize lines + byteSize line ≠ offset := by omega
    rw [Location.find, if_neg (by omega), if_pos hlast, if_neg hne]

/-- Going on behind the end of a text changes nothing. -/
theorem find_beyond {cs : List Char} {offset count column start here : Nat}
    (h : here + byteSize cs ≤ offset) :
    Location.find offset count column start here cs =
      Location.find (here + byteSize cs) count column start here cs := by
  induction cs generalizing count column start here with
  | nil => rfl
  | cons c cs ih =>
      have hpos := c.utf8Size_pos
      rw [byteSize_cons] at h ⊢
      rw [← Nat.add_assoc] at h ⊢
      conv_lhs => rw [Location.find, if_neg (by omega), if_neg (by omega), ih h, ih h]
      conv_rhs => rw [Location.find, if_neg (by omega), if_neg (by omega)]

theorem ofOffset_eq {offset : Nat}
    (h : Position source (min offset (byteSize source)) lines line rest) :
    Location.ofOffset source offset =
      ⟨.ofNat (lines.count '\n' + 1),
        .ofNat (columns lines line (min offset (byteSize source)) + 1)⟩ := by
  have hfind : Location.find offset 1 1 0 0 source =
      Location.find (min offset (byteSize source)) 1 1 0 0 source := by
    by_cases hbeyond : byteSize source ≤ offset
    · rw [Nat.min_eq_right hbeyond, find_beyond (by omega), Nat.zero_add]
    · rw [Nat.min_eq_left (by omega)]
  unfold Location.ofOffset
  rw [hfind, h.find_eq]

end Position

/-! ### Where characters begin -/

/-- The position of an offset at which a character begins or the source ends. -/
theorem exists_position_of_append (before rest : List Char) :
    ∃ lines line, Position (before ++ rest) (byteSize before) lines line rest ∧
      before = lines ++ line := by
  obtain ⟨lines, line, rfl, hend, hclean⟩ := exists_lines before
  refine ⟨lines, line, ⟨List.append_assoc .., hend, hclean, Or.inl ?_⟩, rfl⟩
  rw [byteSize_append]

/-- The column of such an offset counts the characters behind the last line feed. -/
theorem Position.columns_eq {source lines line rest : List Char}
    (h : Position source (byteSize (lines ++ line)) lines line rest) :
    columns lines line (byteSize (lines ++ line)) =
      ((lines ++ line).rtakeWhile (· ≠ '\n')).length := by
  have hline : (lines ++ line).rtakeWhile (· ≠ '\n') = line := by
    unfold List.rtakeWhile
    rw [List.reverse_append, List.takeWhile_append_of_pos]
    · rcases h.lines_end with rfl | ⟨earlier, rfl⟩
      · simp
      · simp
    · intro c hc
      have hne : c ≠ '\n' := fun e => h.line_clean (by rw [← e]; exact List.mem_reverse.mp hc)
      simpa using hne
  rw [hline, columns, if_pos (byteSize_append lines line).symm]

/-- The line and the column, counted from zero, behind a part of a source. -/
def place (before : List Char) : Nat × Nat :=
  (before.count '\n', (before.rtakeWhile (· ≠ '\n')).length)

/-- Behind a longer part there is a later line, or a later column of the same line. -/
theorem place_append_lt (before : List Char) {more : List Char} (h : more ≠ []) :
    (place before).1 < (place (before ++ more)).1 ∨
      (place before).1 = (place (before ++ more)).1 ∧
        (place before).2 < (place (before ++ more)).2 := by
  unfold place
  rw [List.count_append]
  by_cases hfeed : '\n' ∈ more
  · have hcount := List.count_pos_iff.mpr hfeed
    exact Or.inl (by omega)
  · refine Or.inr ⟨by rw [List.count_eq_zero.mpr hfeed, Nat.add_zero], ?_⟩
    have hall : ∀ c ∈ more.reverse, decide (c ≠ '\n') = true := by
      intro c hc
      have hne : c ≠ '\n' := fun e => hfeed (by rw [← e]; exact List.mem_reverse.mp hc)
      simpa using hne
    have hlength := List.length_pos_of_ne_nil h
    unfold List.rtakeWhile
    rw [List.reverse_append, List.takeWhile_append_of_pos hall]
    simp only [List.length_reverse, List.length_append]
    omega

/-! ### Sources -/

variable {source : String}

theorem byteSize_toList_lt (hsize : source.utf8ByteSize < UInt32.size - 1) :
    byteSize source.toList + 1 < UInt32.size := by
  rw [← utf8ByteSize_eq]
  exact Nat.add_lt_of_lt_sub hsize

/-- The location of an offset behind a part of a source. -/
theorem location?_of_append (hsize : source.utf8ByteSize < UInt32.size - 1) {before after : String}
    (hsource : source = before ++ after) {offset : UInt32}
    (hoffset : before.utf8ByteSize = offset.toNat ∨
      after = "" ∧ before.utf8ByteSize ≤ offset.toNat) :
    ∃ location, (LineIndex.ofSource source.toList).location? offset = some location ∧
      location.line.toNat = (place before.toList).1 + 1 ∧
      location.column.toNat = (place before.toList).2 + 1 := by
  have hbound := byteSize_toList_lt hsize
  have htoList : source.toList = before.toList ++ after.toList := by
    rw [hsource, String.toList_append]
  rw [htoList] at hbound ⊢
  have hmin : min offset.toNat (byteSize (before.toList ++ after.toList)) =
      byteSize before.toList := by
    rw [byteSize_append]
    rw [utf8ByteSize_eq] at hoffset
    rcases hoffset with hoffset | ⟨rfl, hoffset⟩
    · omega
    · rw [String.toList_empty, byteSize_nil]
      omega
  obtain ⟨lines, line, hposition, hbefore⟩ :=
    exists_position_of_append before.toList after.toList
  have hlocation := Position.location?_eq hbound (by rw [hmin]; exact hposition)
  rw [hbefore] at hposition hbound hmin hlocation ⊢
  have hcount : lines.count '\n' = (lines ++ line).count '\n' := by
    rw [List.count_append, List.count_eq_zero.mpr hposition.line_clean, Nat.add_zero]
  have hcolumn := hposition.columns_le
  have hlines : lines.count '\n' ≤ byteSize lines :=
    Nat.le_trans List.count_le_length (length_le_byteSize lines)
  rw [byteSize_append (lines ++ line), byteSize_append] at hbound
  rw [hmin] at hlocation
  refine ⟨_, hlocation, ?_, ?_⟩
  · show (UInt32.ofNat (lines.count '\n' + 1)).toNat = _
    rw [UInt32.toNat_ofNat_of_lt' (by omega), hcount]
    rfl
  · show (UInt32.ofNat (Position.columns lines line _ + 1)).toNat = _
    rw [byteSize_append] at hcolumn
    rw [UInt32.toNat_ofNat_of_lt' (by rw [byteSize_append]; omega), hposition.columns_eq]
    rfl

/-- Of two offsets at which characters begin the later one has the later place. -/
theorem location?_lt (hsize : source.utf8ByteSize < UInt32.size - 1) {one two : UInt32}
    (hone : (⟨one.toNat⟩ : String.Pos.Raw).IsValid source)
    (htwo : (⟨two.toNat⟩ : String.Pos.Raw).IsValid source) (hlt : one < two) :
    ∃ first second, (LineIndex.ofSource source.toList).location? one = some first ∧
      (LineIndex.ofSource source.toList).location? two = some second ∧
      (first.line < second.line ∨ first.line = second.line ∧ first.column < second.column) := by
  obtain ⟨before, after, hsource, hbefore⟩ := String.Pos.Raw.isValid_iff_exists_append.mp hone
  obtain ⟨longer, rest, hsource', hlonger⟩ := String.Pos.Raw.isValid_iff_exists_append.mp htwo
  have hone : before.utf8ByteSize = one.toNat := (congrArg String.Pos.Raw.byteIdx hbefore).symm
  have htwo : longer.utf8ByteSize = two.toNat := (congrArg String.Pos.Raw.byteIdx hlonger).symm
  obtain ⟨first, hfirst, hline, hcolumn⟩ := location?_of_append hsize hsource (Or.inl hone)
  obtain ⟨second, hsecond, hline', hcolumn'⟩ := location?_of_append hsize hsource' (Or.inl htwo)
  refine ⟨first, second, hfirst, hsecond, ?_⟩
  have hsizes : byteSize before.toList < byteSize longer.toList := by
    rw [← utf8ByteSize_eq, ← utf8ByteSize_eq, hone, htwo]
    exact hlt
  -- The part in front of the later offset continues the other one.
  have hparts : before.toList ++ after.toList = longer.toList ++ rest.toList := by
    rw [← String.toList_append, ← String.toList_append, ← hsource, ← hsource']
  obtain ⟨more, hmore⟩ : ∃ more, longer.toList = before.toList ++ more := by
    rcases List.append_eq_append_iff.mp hparts with ⟨more, hmore, -⟩ | ⟨more, hmore, -⟩
    · exact ⟨more, hmore⟩
    · rw [hmore, byteSize_append] at hsizes
      omega
  have hne : more ≠ [] := by
    rintro rfl
    rw [hmore, List.append_nil] at hsizes
    exact Nat.lt_irrefl _ hsizes
  have hplace := place_append_lt before.toList hne
  rw [← hmore] at hplace
  rw [UInt32.lt_iff_toNat_lt, UInt32.lt_iff_toNat_lt, ← UInt32.toNat_inj]
  omega

/-- **Every offset of a source has a location, and the search for it never fails.**  It is the
location that going through the text comes to.  Its line is one of the source.  Where a character
begins, and at the end, the line counts the line feeds in front of the offset and the column
the characters behind the last of them, so that later offsets have later locations. -/
theorem location?_source (hsize : source.utf8ByteSize < UInt32.size - 1) :
    (∀ offset : UInt32, ∃ location,
        (LineIndex.ofSource source.toList).location? offset = some location ∧
          location = .ofOffset source.toList offset.toNat ∧ 1 ≤ location.line.toNat ∧
          location.line.toNat ≤ 1 + source.toList.count '\n') ∧
      (∀ (before after : String) (offset : UInt32), source = before ++ after →
        (before.utf8ByteSize = offset.toNat ∨
          after = "" ∧ before.utf8ByteSize ≤ offset.toNat) →
        ∃ location, (LineIndex.ofSource source.toList).location? offset = some location ∧
          location.line.toNat = before.toList.count '\n' + 1 ∧
          location.column.toNat = (before.toList.rtakeWhile (· ≠ '\n')).length + 1) ∧
      (∀ one two : UInt32, (⟨one.toNat⟩ : String.Pos.Raw).IsValid source →
        (⟨two.toNat⟩ : String.Pos.Raw).IsValid source → one < two →
        ∃ first second, (LineIndex.ofSource source.toList).location? one = some first ∧
          (LineIndex.ofSource source.toList).location? two = some second ∧
          (first.line < second.line ∨
            first.line = second.line ∧ first.column < second.column)) ∧
      ∀ one two : UInt32, (⟨one.toNat⟩ : String.Pos.Raw).IsValid source →
        (⟨two.toNat⟩ : String.Pos.Raw).IsValid source →
        (LineIndex.ofSource source.toList).location? one =
          (LineIndex.ofSource source.toList).location? two → one = two := by
  have hbound := byteSize_toList_lt hsize
  have hlater : ∀ one two : UInt32, (⟨one.toNat⟩ : String.Pos.Raw).IsValid source →
      (⟨two.toNat⟩ : String.Pos.Raw).IsValid source → one < two →
      (LineIndex.ofSource source.toList).location? one ≠
        (LineIndex.ofSource source.toList).location? two := by
    intro one two hone htwo hlt heq
    obtain ⟨first, second, hfirst, hsecond, hplaces⟩ := location?_lt hsize hone htwo hlt
    have hsame : first = second := by
      rw [← Option.some.injEq, ← hfirst, ← hsecond]
      exact heq
    subst hsame
    rw [UInt32.lt_iff_toNat_lt, UInt32.lt_iff_toNat_lt] at hplaces
    omega
  refine ⟨?_, ?_, fun one two hone htwo hlt => location?_lt hsize hone htwo hlt, ?_⟩
  · intro offset
    obtain ⟨lines, line, rest, hposition⟩ :=
      exists_position (Nat.min_le_right offset.toNat (byteSize source.toList))
    refine ⟨_, hposition.location?_eq hbound, hposition.ofOffset_eq.symm, ?_⟩
    have hcount : lines.count '\n' ≤ source.toList.count '\n' := by
      rw [hposition.source_eq, List.count_append]
      exact Nat.le_add_right ..
    have hfeeds : source.toList.count '\n' ≤ byteSize source.toList :=
      Nat.le_trans List.count_le_length (length_le_byteSize source.toList)
    show 1 ≤ (UInt32.ofNat (lines.count '\n' + 1)).toNat ∧
      (UInt32.ofNat (lines.count '\n' + 1)).toNat ≤ _
    rw [UInt32.toNat_ofNat_of_lt' (by omega)]
    omega
  · intro before after offset hsource hoffset
    exact location?_of_append hsize hsource hoffset
  · intro one two hone htwo heq
    by_contra hne
    rcases UInt32.lt_or_lt_of_ne hne with hlt | hlt
    · exact hlater one two hone htwo hlt heq
    · exact hlater two one htwo hone hlt heq.symm

/-- An offset behind a line feed and a character of two bytes. -/
theorem location?_source_second_line :
    "é\nb".utf8ByteSize < UInt32.size - 1 ∧
      ∃ location, (LineIndex.ofSource "é\nb".toList).location? 3 = some location ∧
        location.line.toNat = 2 ∧ location.column.toNat = 1 := by
  have hsize : "é\nb".utf8ByteSize < UInt32.size - 1 := by decide
  obtain ⟨-, hplaces, -⟩ := location?_source hsize
  exact ⟨hsize, hplaces "é\n" "b" 3 (by decide) (Or.inl (by decide))⟩

end Listeners
