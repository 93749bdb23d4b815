import Testbook.Path
import Testbook.Proofs.Text.Pieces

/-!
Components of paths. A path has the components of its pieces between slashes, behind the slash or
dot that it may start with (`components_eq`); its components other than dots are its steps.
Normalizing keeps the steps (`components_normalize`), a name that is put behind a path is one step
more (`components_extend`), and what is left of a path without its last name has the components in
front of it (`components_parent?`).
-/

namespace Testbook.Path

open Testbook.Text

/-- What an entry of a directory may be called. -/
def IsName (name : Text) : Prop := '/' ∉ name ∧ isIdle name = false ∧ name ≠ ['.', '.']

instance (name : Text) : Decidable (IsName name) :=
  inferInstanceAs (Decidable ('/' ∉ name ∧ isIdle name = false ∧ name ≠ ['.', '.']))

/-- The components of a path other than a dot. -/
def steps (path : Path) : List Component := (components path).filter (· != .current)

/-- A path is another one or lies beneath it, however the two are spelled. -/
def LiesUnder (base path : Path) : Prop := steps base <+: steps path

instance (base path : Path) : Decidable (LiesUnder base path) :=
  inferInstanceAs (Decidable (steps base <+: steps path))

/-- The pieces of a path between slashes that are components. -/
def pieces (path : Path) : List Text := (splitOn '/' path).filter (!isIdle ·)

variable {path other name : Text} {segments : List Text}

/-! ### Pieces -/

theorem componentOf?_eq_none : componentOf? name = none ↔ isIdle name = true := by
  rw [componentOf?]
  by_cases hidle : isIdle name = true
  · simp [hidle]
  · by_cases hdots : name = ['.', '.']
    · simp [hdots]
    · simp [hidle, hdots]

theorem componentOf?_of_isName (h : IsName name) : componentOf? name = some (.name name) := by
  simp [componentOf?, h.2.1, h.2.2]

/-- A component of a piece is spelled like the piece; it is neither a dot nor a slash. -/
theorem componentOf?_eq_some {c : Component} (h : componentOf? name = some c) :
    c.text = name ∧ c ≠ .current ∧ c ≠ .root := by
  rw [componentOf?] at h
  by_cases hidle : isIdle name = true
  · simp [hidle] at h
  · by_cases hdots : name = ['.', '.']
    · simp only [hdots, if_true] at h
      cases h
      exact ⟨hdots.symm, by decide, by decide⟩
    · simp only [hidle, hdots, if_false] at h
      cases h
      simp [Component.text]

/-- A piece that is a name is one that entries may have. -/
theorem isName_of_componentOf? {segment : Text} (hslash : '/' ∉ segment)
    (h : componentOf? segment = some (.name name)) : IsName name := by
  obtain rfl : name = segment := (componentOf?_eq_some h).1
  have hidle : isIdle name = false := by
    rw [Bool.eq_false_iff, ne_eq, ← componentOf?_eq_none, h]
    exact Option.some_ne_none _
  refine ⟨hslash, hidle, ?_⟩
  rintro rfl
  exact absurd h (by decide)

theorem map_text_filterMap (segments : List Text) :
    (segments.filterMap componentOf?).map Component.text = segments.filter (!isIdle ·) := by
  induction segments with
  | nil => rfl
  | cons segment segments ih =>
    cases hc : componentOf? segment with
    | none =>
      have hidle := componentOf?_eq_none.1 hc
      rw [List.filterMap_cons_none hc, ih]
      simp [hidle]
    | some c =>
      have hidle : isIdle segment = false := by
        rw [Bool.eq_false_iff, ne_eq, ← componentOf?_eq_none, hc]
        exact Option.some_ne_none c
      rw [List.filterMap_cons_some hc, List.map_cons, ih, (componentOf?_eq_some hc).1]
      simp [hidle]

theorem filterMap_filter_isIdle (segments : List Text) :
    (segments.filter (!isIdle ·)).filterMap componentOf? = segments.filterMap componentOf? := by
  induction segments with
  | nil => rfl
  | cons segment segments ih =>
    by_cases hidle : isIdle segment = true
    · rw [List.filterMap_cons_none (componentOf?_eq_none.2 hidle)]
      simp [hidle, ih]
    · simp [hidle, List.filterMap_cons, ih]

/-- Pieces that are joined with slashes keep their components. -/
theorem filterMap_splitOn_join (h : ∀ segment ∈ segments, '/' ∉ segment) :
    (splitOn '/' (join ['/'] segments)).filterMap componentOf?
      = segments.filterMap componentOf? := by
  cases segments with
  | nil => rfl
  | cons segment segments => rw [splitOn_join (List.cons_ne_nil _ _) h]

theorem not_mem_of_mem_filterMap {c : Component} (h : c ∈ segments.filterMap componentOf?) :
    c ≠ .current ∧ c ≠ .root := by
  obtain ⟨segment, -, hc⟩ := List.mem_filterMap.1 h
  exact (componentOf?_eq_some hc).2

/-! ### The front of a path -/

/-- What does not start with a slash has a first piece that is not empty. -/
theorem splitOn_eq_nil_cons {text : Text} {rest : List Text} (h : splitOn '/' text = [] :: rest) :
    text = [] ∨ text.head? = some '/' := by
  cases text with
  | nil => exact .inl rfl
  | cons c cs =>
    by_cases hc : c = '/'
    · exact .inr (by simp [hc])
    · obtain ⟨piece, pieces, hp⟩ := List.exists_cons_of_ne_nil (splitOn_ne_nil '/' cs)
      simp [splitOn, hc, hp] at h

/-- A path starts with a slash, is a dot or starts with one, or is spelled as its pieces. -/
theorem splitHead_cases (path : Path) :
    (∃ rest, path = '/' :: rest ∧ splitHead path = (some .root, rest))
      ∨ (path = ['.'] ∧ splitHead path = (some .current, []))
      ∨ (∃ rest, path = '.' :: '/' :: rest ∧ splitHead path = (some .current, '/' :: rest))
      ∨ (splitHead path = (none, path) ∧ path.head? ≠ some '/'
        ∧ (path = [] ∨ ∃ first rest, splitOn '/' path = first :: rest ∧ isIdle first = false)) := by
  fun_cases splitHead path with
  | case1 rest => exact .inl ⟨rest, rfl, rfl⟩
  | case2 => exact .inr (.inl ⟨rfl, rfl⟩)
  | case3 rest => exact .inr (.inr (.inl ⟨rest, rfl, rfl⟩))
  | case4 path hslash hdot hdots =>
    refine .inr (.inr (.inr ⟨rfl, ?_, ?_⟩))
    · intro hhead
      cases path with
      | nil => cases hhead
      | cons c rest => exact hslash rest (by simpa using hhead)
    · cases path with
      | nil => exact .inl rfl
      | cons c rest =>
        have hc : c ≠ '/' := fun hc => hslash rest (by rw [hc])
        obtain ⟨piece, pieces, hp⟩ := List.exists_cons_of_ne_nil (splitOn_ne_nil '/' rest)
        refine .inr ⟨c :: piece, pieces, by simp [splitOn, hc, hp], ?_⟩
        rw [Bool.eq_false_iff]
        intro hidle
        obtain ⟨rfl, rfl⟩ : c = '.' ∧ piece = [] := by simpa [isIdle] using hidle
        rcases splitOn_eq_nil_cons hp with rfl | hhead
        · exact hdot rfl
        · cases rest with
          | nil => cases hhead
          | cons c rest => exact hdots rest (by simpa using hhead)

/-- A path whose first piece is a component starts with neither a slash nor a dot. -/
theorem splitHead_of_first {first : Text} {rest : List Text}
    (h : splitOn '/' path = first :: rest) (hidle : isIdle first = false) :
    splitHead path = (none, path) ∧ path.head? ≠ some '/' := by
  rcases splitHead_cases path with ⟨rest', rfl, -⟩ | ⟨rfl, -⟩ | ⟨rest', rfl, -⟩ | ⟨hnone, hhead, -⟩
  · obtain ⟨rfl, -⟩ : [] = first ∧ _ := by simpa [splitOn] using h
    exact absurd hidle (by decide)
  · obtain ⟨rfl, -⟩ : ['.'] = first ∧ _ := by simpa [splitOn] using h
    exact absurd hidle (by decide)
  · obtain ⟨rfl, -⟩ : ['.'] = first ∧ _ := by simpa [splitOn] using h
    exact absurd hidle (by decide)
  · exact ⟨hnone, hhead⟩

/-- The pieces of the whole path give its components, behind the first. -/
theorem components_eq (path : Path) :
    components path
      = (splitHead path).1.toList ++ (splitOn '/' path).filterMap componentOf? := by
  rw [components]
  rcases splitHead_cases path with ⟨rest, rfl, h⟩ | ⟨rfl, h⟩ | ⟨rest, rfl, h⟩ | ⟨h, -⟩
  · rw [h]
    rfl
  · rfl
  · rw [h]
    rfl
  · rw [h]

theorem steps_eq (path : Path) :
    steps path = (if path.head? = some '/' then [.root] else [])
      ++ (splitOn '/' path).filterMap componentOf? := by
  have hfilter : ((splitOn '/' path).filterMap componentOf?).filter (· != .current)
      = (splitOn '/' path).filterMap componentOf? := by
    rw [List.filter_eq_self]
    intro c hc
    simpa using (not_mem_of_mem_filterMap hc).1
  rw [steps, components_eq, List.filter_append, hfilter]
  rcases splitHead_cases path with ⟨rest, rfl, h⟩ | ⟨rfl, h⟩ | ⟨rest, rfl, h⟩ | ⟨h, hhead, -⟩
  · simp [h]
  · simp [h]
  · simp [h]
  · simp [h, hhead]

/-- The components are the steps, behind the dot if the path is a dot or starts with one. -/
theorem components_eq_steps (path : Path) :
    components path
      = (if (splitHead path).1 = some .current then [.current] else []) ++ steps path := by
  rw [components_eq, steps_eq, ← List.append_assoc]
  congr 1
  rcases splitHead_cases path with ⟨rest, rfl, h⟩ | ⟨rfl, h⟩ | ⟨rest, rfl, h⟩ | ⟨h, hhead, -⟩
  · simp [h]
  · simp [h]
  · simp [h]
  · simp [h, hhead]

theorem steps_not_current (path : Path) : .current ∉ steps path := by simp [steps]

/-! ### Normalizing -/

theorem slash_not_mem_of_mem_pieces {piece : Text} (h : piece ∈ pieces path) : '/' ∉ piece :=
  not_mem_of_mem_splitOn (List.mem_filter.1 h).1

theorem filterMap_pieces (path : Path) :
    (pieces path).filterMap componentOf? = (splitOn '/' path).filterMap componentOf? :=
  filterMap_filter_isIdle _

theorem mem_steps_root : .root ∈ steps path ↔ path.head? = some '/' := by
  rw [steps_eq, List.mem_append]
  have hinner : .root ∉ (splitOn '/' path).filterMap componentOf? := fun h =>
    (not_mem_of_mem_filterMap h).2 rfl
  by_cases hhead : path.head? = some '/'
  · simp [hhead]
  · simp [hhead, hinner]

/-- The pieces of a path that are components are the texts of its steps. -/
theorem pieces_eq (path : Path) :
    pieces path = ((steps path).filter (· != .root)).map Component.text := by
  have hinner : ((splitOn '/' path).filterMap componentOf?).filter (· != .root)
      = (splitOn '/' path).filterMap componentOf? := by
    rw [List.filter_eq_self]
    intro c hc
    simpa using (not_mem_of_mem_filterMap hc).2
  rw [steps_eq, List.filter_append, hinner, pieces, ← map_text_filterMap]
  split <;> simp

/-- A path without dots is spelled by its pieces, behind the slash that it may start with. -/
theorem normalize_eq (h : steps path ≠ []) :
    normalize path = (if path.head? = some '/' then ['/'] else []) ++ join ['/'] (pieces path) := by
  change (if (steps path).isEmpty then ['.'] else ofComponents (steps path)) = _
  rw [if_neg (by simpa using h)]
  by_cases hhead : path.head? = some '/'
  · rw [if_pos hhead, steps_eq, if_pos hhead, List.singleton_append, ofComponents,
      map_text_filterMap]
    rfl
  · rw [steps_eq, if_neg hhead, List.nil_append] at h ⊢
    rw [if_neg hhead, pieces, ← map_text_filterMap]
    obtain ⟨c, cs, hc⟩ := List.exists_cons_of_ne_nil h
    have hroot : c ≠ .root := (not_mem_of_mem_filterMap (hc ▸ List.mem_cons_self)).2
    rw [hc]
    cases c with
    | root => exact absurd rfl hroot
    | _ => rfl

theorem normalize_of_steps_eq_nil (h : steps path = []) : normalize path = ['.'] := by
  change (if (steps path).isEmpty then ['.'] else ofComponents (steps path)) = _
  rw [h]
  rfl

theorem normalize_congr (h : steps path = steps other) : normalize path = normalize other := by
  change (if (steps path).isEmpty then ['.'] else ofComponents (steps path)) = _
  rw [h]
  rfl

/-- A path without dots is spelled without them, too. -/
theorem components_normalize (path : Path) :
    components (normalize path) = if steps path = [] then [.current] else steps path := by
  by_cases hnil : steps path = []
  · rw [normalize_of_steps_eq_nil hnil, if_pos hnil]
    rfl
  · have hslash : ∀ piece ∈ pieces path, '/' ∉ piece := fun piece => slash_not_mem_of_mem_pieces
    have hjoin := filterMap_splitOn_join hslash
    rw [filterMap_pieces] at hjoin
    rw [normalize_eq hnil, if_neg hnil, steps_eq]
    by_cases hhead : path.head? = some '/'
    · rw [if_pos hhead, if_pos hhead]
      change .root :: (splitOn '/' (join ['/'] (pieces path))).filterMap componentOf? = _
      rw [hjoin]
      rfl
    · rw [if_neg hhead, if_neg hhead, List.nil_append, List.nil_append]
      obtain ⟨first, rest, hp⟩ : ∃ first rest, pieces path = first :: rest := by
        refine List.exists_cons_of_ne_nil fun hpieces => hnil ?_
        rw [steps_eq, if_neg hhead, ← filterMap_pieces, hpieces]
        rfl
      have hsplit : splitOn '/' (join ['/'] (pieces path)) = first :: rest := by
        rw [splitOn_join (by simp [hp]) hslash, hp]
      have hfirst : isIdle first = false := by
        have hmem : first ∈ pieces path := hp ▸ List.mem_cons_self
        simpa using (List.mem_filter.1 hmem).2
      rw [components_eq, (splitHead_of_first hsplit hfirst).1, hjoin]
      rfl

theorem steps_normalize (path : Path) : steps (normalize path) = steps path := by
  rw [steps, components_normalize]
  by_cases h : steps path = []
  · rw [if_pos h, h]
    rfl
  · rw [if_neg h, steps, List.filter_filter]
    simp

theorem normalize_ne_nil (path : Path) : normalize path ≠ [] := by
  intro hnil
  have hcomponents := components_normalize path
  rw [hnil] at hcomponents
  by_cases h : steps path = []
  · rw [if_pos h] at hcomponents
    exact absurd hcomponents (by decide)
  · rw [if_neg h] at hcomponents
    exact h hcomponents.symm

/-- The last piece of a path that is a component is its last piece without dots, too. -/
theorem exists_splitOn_normalize {front : List Text} {last : Text}
    (h : pieces path = front ++ [last]) :
    ∃ more, splitOn '/' (normalize path) = more ++ [last] := by
  have hne : pieces path ≠ [] := by simp [h]
  have hsteps : steps path ≠ [] := fun hnil => hne (by rw [pieces_eq, hnil]; rfl)
  have hjoin : splitOn '/' (join ['/'] (pieces path)) = front ++ [last] := by
    rw [splitOn_join hne fun piece => slash_not_mem_of_mem_pieces, h]
  rw [normalize_eq hsteps]
  by_cases hhead : path.head? = some '/'
  · refine ⟨[] :: front, ?_⟩
    have hslash : splitOn '/' ('/' :: join ['/'] (pieces path))
        = [] :: splitOn '/' (join ['/'] (pieces path)) := if_pos rfl
    rw [if_pos hhead, List.singleton_append, hslash, hjoin, List.cons_append]
  · exact ⟨front, by rw [if_neg hhead, List.nil_append, hjoin]⟩

/-- Which paths lie under which, however they are spelled. The path that is a dot lies only under
itself. -/
theorem isUnder_normalize (base path : Path) :
    isUnder (normalize base) (normalize path) = true
      ↔ LiesUnder base path ∧ (steps base = [] → steps path = []) := by
  rw [LiesUnder, isUnder, List.isPrefixOf_iff_prefix, components_normalize, components_normalize]
  by_cases hbase : steps base = []
  · by_cases hpath : steps path = []
    · simp [hbase, hpath]
    · rw [if_pos hbase, if_neg hpath, hbase]
      refine iff_of_false (fun hstart => ?_) (fun h => hpath (h.2 rfl))
      exact steps_not_current path (hstart.subset List.mem_cons_self)
  · by_cases hpath : steps path = []
    · rw [if_neg hbase, if_pos hpath, hpath]
      refine iff_of_false (fun hstart => ?_) (fun h => hbase (List.prefix_nil.1 h.1))
      obtain ⟨c, cs, hc⟩ := List.exists_cons_of_ne_nil hbase
      have hmem : c ∈ steps base := hc ▸ List.mem_cons_self
      rw [List.mem_singleton.1 (hstart.subset hmem)] at hmem
      exact steps_not_current base hmem
    · simp [hbase, hpath]

/-! ### The last name -/

theorem fileName?_eq (path : Path) :
    fileName? path = (steps path).getLast?.bind Component.name? := by
  rw [fileName?, components_eq_steps]
  by_cases hnil : steps path = []
  · rw [hnil, List.append_nil]
    split <;> rfl
  · obtain ⟨front, last, hlast⟩ := (List.eq_nil_or_concat (steps path)).resolve_left hnil
    rw [hlast, List.concat_eq_append, ← List.append_assoc, List.getLast?_concat,
      List.getLast?_concat]

/-- The steps of a path with a name end with the name. -/
theorem steps_eq_concat (h : fileName? path = some name) :
    ∃ front, steps path = front ++ [.name name] := by
  rw [fileName?_eq] at h
  obtain ⟨last, hlast, hname⟩ := Option.bind_eq_some_iff.1 h
  obtain ⟨front, hfront⟩ := List.getLast?_eq_some_iff.1 hlast
  cases last with
  | name text =>
    cases hname
    exact ⟨front, hfront⟩
  | _ => cases hname

theorem components_of_fileName? (h : fileName? path = some name) :
    components (normalize path) = steps (normalize path) := by
  obtain ⟨front, hfront⟩ := steps_eq_concat h
  rw [components_normalize, steps_normalize, if_neg]
  rw [hfront]
  simp

/-! ### Names behind a path -/

theorem extend_nil (name : Text) : extend [] name = name := rfl

/-- The last piece of an extended path is the name, the others are those of the path. -/
theorem splitOn_extend (hpath : path ≠ []) (h : '/' ∉ name) :
    ∃ front, front ≠ [] ∧ splitOn '/' (extend path name) = front ++ [name]
      ∧ (splitOn '/' path = front ∨ splitOn '/' path = front ++ [[]]) := by
  rw [extend, if_neg (by simpa using hpath)]
  by_cases hlast : path.getLast? = some '/'
  · obtain ⟨front, rfl⟩ := List.getLast?_eq_some_iff.1 hlast
    refine ⟨splitOn '/' front, splitOn_ne_nil _ _, ?_, .inr (splitOn_append_sep '/' front [])⟩
    rw [if_pos hlast, List.append_assoc, List.singleton_append, splitOn_append_sep,
      splitOn_of_not_mem h]
  · refine ⟨splitOn '/' path, splitOn_ne_nil _ _, ?_, .inl rfl⟩
    rw [if_neg hlast, splitOn_append_sep, splitOn_of_not_mem h]

/-- The pieces in front of the name are those of the path, but for idle ones. -/
theorem exists_splitOn_extend (path : Path) (h : '/' ∉ name) :
    ∃ front, splitOn '/' (extend path name) = front ++ [name]
      ∧ front.filter (!isIdle ·) = pieces path := by
  by_cases hpath : path = []
  · exact ⟨[], by rw [hpath, extend_nil, splitOn_of_not_mem h, List.nil_append], by rw [hpath]; rfl⟩
  · obtain ⟨front, -, hsplit, hfront⟩ := splitOn_extend hpath h
    refine ⟨front, hsplit, ?_⟩
    rcases hfront with hfront | hfront
    · rw [pieces, hfront]
    · rw [pieces, hfront, List.filter_append]
      exact (List.append_nil _).symm

theorem splitHead_extend (path : Path) (h : IsName name) :
    (splitHead (extend path name)).1 = (splitHead path).1 := by
  rcases splitHead_cases path with
    ⟨rest, rfl, hs⟩ | ⟨rfl, hs⟩ | ⟨rest, rfl, hs⟩ | ⟨hs, -, rfl | ⟨first, rest, hp, hidle⟩⟩
  · rw [hs, extend, if_neg (by simp)]
    split <;> rfl
  · rfl
  · rw [hs, extend, if_neg (by simp)]
    split <;> rfl
  · rw [extend_nil, (splitHead_of_first (splitOn_of_not_mem h.1) h.2.1).1]
    rfl
  · have hpath : path ≠ [] := by
      rintro rfl
      cases hp
      exact absurd hidle (by decide)
    obtain ⟨front, hne, hsplit, hfront⟩ := splitOn_extend hpath h.1
    obtain ⟨piece, pieces, rfl⟩ := List.exists_cons_of_ne_nil hne
    have hpiece : piece = first := by
      rcases hfront with hfront | hfront
      · rw [hp] at hfront
        exact (List.cons.inj hfront).1.symm
      · rw [hp] at hfront
        exact (List.cons.inj hfront).1.symm
    rw [(splitHead_of_first hsplit (hpiece ▸ hidle)).1, hs]

/-- A name behind a path is one more component. -/
theorem components_extend (path : Path) (h : IsName name) :
    components (extend path name) = components path ++ [.name name] := by
  obtain ⟨front, hsplit, hfront⟩ := exists_splitOn_extend path h.1
  rw [components_eq, components_eq, splitHead_extend path h, hsplit, List.filterMap_append,
    ← filterMap_filter_isIdle front, hfront, filterMap_pieces, List.append_assoc]
  simp [componentOf?_of_isName h]

theorem steps_extend (path : Path) (h : IsName name) :
    steps (extend path name) = steps path ++ [.name name] := by
  rw [steps, components_extend path h, List.filter_append]
  rfl

/-- A path continued by names, one after the other. -/
def below (path : Path) (names : List Text) : Path := names.foldl extend path

theorem components_below (path : Path) {names : List Text} (h : ∀ name ∈ names, IsName name) :
    components (below path names) = components path ++ names.map .name := by
  induction names generalizing path with
  | nil => simp [below]
  | cons name names ih =>
    obtain ⟨hname, hnames⟩ := List.forall_mem_cons.1 h
    rw [below, List.foldl_cons]
    exact (ih (extend path name) hnames).trans (by simp [components_extend path hname])

theorem steps_below (path : Path) {names : List Text} (h : ∀ name ∈ names, IsName name) :
    steps (below path names) = steps path ++ names.map .name := by
  rw [steps, components_below path h, List.filter_append, steps]
  simp

/-! ### The path without its last name -/

theorem filterMap_dropIdleEnd (segments : List Text) :
    (dropIdleEnd segments).filterMap componentOf? = segments.filterMap componentOf? := by
  have hdrop : ∀ segments : List Text,
      (segments.dropWhile isIdle).filterMap componentOf? = segments.filterMap componentOf? := by
    intro segments
    induction segments with
    | nil => rfl
    | cons segment segments ih =>
      by_cases hidle : isIdle segment = true
      · rw [List.dropWhile_cons_of_pos hidle, ih,
          List.filterMap_cons_none (componentOf?_eq_none.2 hidle)]
      · rw [List.dropWhile_cons_of_neg hidle]
  rw [dropIdleEnd, List.filterMap_reverse, hdrop, List.filterMap_reverse, List.reverse_reverse]

theorem prefix_dropIdleEnd (segments : List Text) : dropIdleEnd segments <+: segments := by
  rw [dropIdleEnd, ← List.reverse_suffix, List.reverse_reverse]
  exact List.dropWhile_suffix _

theorem isIdle_of_dropIdleEnd {front : List Text} {last : Text}
    (h : dropIdleEnd segments = front ++ [last]) : isIdle last = false := by
  rw [dropIdleEnd, List.reverse_eq_iff] at h
  have hhead := List.head?_dropWhile_not isIdle segments.reverse
  rw [h] at hhead
  simpa using hhead

/-- Pieces that can stand behind the head of a path without making another head of it: behind a dot
the first of them is empty and not alone, and at the front of a path it is not idle. -/
def IsBody (head : Option Component) (segments : List Text) : Prop :=
  head = some .root
    ∨ head = some .current ∧ (segments = [] ∨ ∃ rest, rest ≠ [] ∧ segments = [] :: rest)
    ∨ head = none ∧ segments.head?.all (!isIdle ·)

/-- The components of what is spelled with a head and pieces behind it. -/
theorem components_of_isBody {head : Option Component} (h : IsBody head segments)
    (hslash : ∀ segment ∈ segments, '/' ∉ segment) :
    components ((head.map Component.text).getD [] ++ join ['/'] segments)
      = head.toList ++ segments.filterMap componentOf? := by
  have hjoin := filterMap_splitOn_join hslash
  rcases h with rfl | ⟨rfl, rfl | ⟨rest, hrest, rfl⟩⟩ | ⟨rfl, hfirst⟩
  · change .root :: (splitOn '/' (join ['/'] segments)).filterMap componentOf? = _
    rw [hjoin]
    rfl
  · rfl
  · obtain ⟨next, rest, rfl⟩ := List.exists_cons_of_ne_nil hrest
    change .current :: (splitOn '/' (join ['/'] ([] :: next :: rest))).filterMap componentOf? = _
    rw [hjoin]
    rfl
  · cases segments with
    | nil => rfl
    | cons first rest =>
      have hsplit : splitOn '/' (join ['/'] (first :: rest)) = first :: rest :=
        splitOn_join (List.cons_ne_nil _ _) hslash
      have hidle : isIdle first = false := by simpa using hfirst
      change components (join ['/'] (first :: rest)) = _
      rw [components_eq, (splitHead_of_first hsplit hidle).1, hjoin]

/-- The first pieces behind the head of a path can stand there, if the last of them is not idle. -/
theorem isBody_dropIdleEnd {inner : List Text}
    (h : dropIdleEnd inner <+: splitOn '/' (splitHead path).2) :
    IsBody (splitHead path).1 (dropIdleEnd inner) := by
  have hend : dropIdleEnd inner ≠ [[]] := by
    intro hnil
    have hlast : dropIdleEnd inner = [] ++ [[]] := hnil
    exact absurd (isIdle_of_dropIdleEnd hlast) (by decide)
  -- of an empty text nothing is left
  have hnone (hnil : dropIdleEnd inner <+: [[]]) : dropIdleEnd inner = [] := by
    rcases List.prefix_cons_iff.1 hnil with hnil | ⟨more, hmore, hrest⟩
    · exact hnil
    · rw [List.prefix_nil.1 hrest] at hmore
      exact absurd hmore hend
  rcases splitHead_cases path with
    ⟨rest, -, hs⟩ | ⟨-, hs⟩ | ⟨rest, -, hs⟩ | ⟨hs, -, rfl | ⟨first, rest, hp, hidle⟩⟩
  · rw [hs]
    exact .inl rfl
  · rw [hs] at h ⊢
    exact .inr (.inl ⟨rfl, .inl (hnone h)⟩)
  · rw [hs] at h ⊢
    refine .inr (.inl ⟨rfl, ?_⟩)
    rcases List.prefix_cons_iff.1 h with hnil | ⟨more, hmore, -⟩
    · exact .inl hnil
    · refine .inr ⟨more, ?_, hmore⟩
      rintro rfl
      exact hend hmore
  · refine .inr (.inr ⟨rfl, ?_⟩)
    rw [hnone h]
    rfl
  · rw [hs] at h ⊢
    refine .inr (.inr ⟨rfl, ?_⟩)
    rw [hp] at h
    rcases List.prefix_cons_iff.1 h with hnil | ⟨more, hmore, -⟩
    · simp [hnil]
    · simp [hmore, hidle]

/-- A path that ends with a name has a directory, whose components are those in front of it. -/
theorem components_parent? {front : List Component} (h : components path = front ++ [.name name]) :
    ∃ directory, parent? path = some directory ∧ components directory = front := by
  simp only [components] at h
  simp only [parent?]
  rw [← filterMap_dropIdleEnd] at h
  split
  · -- a head alone is no name
    rename_i hnil
    rw [hnil, List.filterMap_nil, List.append_nil] at h
    have hname : .name name ∈ (splitHead path).1.toList := by simp [h]
    rcases splitHead_cases path with ⟨rest, -, hs⟩ | ⟨-, hs⟩ | ⟨rest, -, hs⟩ | ⟨hs, -⟩
    · simp [hs] at hname
    · simp [hs] at hname
    · simp [hs] at hname
    · simp [hs] at hname
  · rename_i hne
    obtain ⟨inner, last, hlast⟩ :=
      (List.eq_nil_or_concat (dropIdleEnd (splitOn '/' (splitHead path).2))).resolve_left hne
    rw [List.concat_eq_append] at hlast
    obtain ⟨c, hc⟩ : ∃ c, componentOf? last = some c := by
      rw [← Option.ne_none_iff_exists', ne_eq, componentOf?_eq_none, isIdle_of_dropIdleEnd hlast]
      decide
    rw [hlast, List.filterMap_append, ← List.append_assoc, List.filterMap_cons_some hc] at h
    have hfront := (List.append_inj' h rfl).1
    have hinner : inner <+: splitOn '/' (splitHead path).2 :=
      (hlast ▸ List.prefix_append inner [last]).trans (prefix_dropIdleEnd _)
    have hkept := (prefix_dropIdleEnd inner).trans hinner
    refine ⟨_, rfl, ?_⟩
    rw [hlast, List.dropLast_concat, components_of_isBody (isBody_dropIdleEnd hkept),
      filterMap_dropIdleEnd, hfront]
    intro segment hsegment
    exact not_mem_of_mem_splitOn (hkept.subset hsegment)

end Testbook.Path
