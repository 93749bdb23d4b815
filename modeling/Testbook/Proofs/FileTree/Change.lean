import Testbook.Proofs.FileTree.Walk

/-!
Changes to trees. Trees stay well-formed when a file is written, and other bytes in one file keep the
shape of the tree (`sameShape_put`): every path leads where it led, and every other file reads as before
(`read_rewrite`).
-/

namespace Testbook

open Testbook.Text

namespace FileTree

variable {tree other : FileTree} {way names : List Text} {old bytes : ByteArray}

/-- Trees with files and directories at the same places. -/
def SameShape (tree other : FileTree) : Prop :=
  ∀ names, (tree.at? names).map isFile = (other.at? names).map isFile

theorem entryNamed?_alterEntry (name other : Text) (change : FileTree → FileTree)
    (entries : List (Text × FileTree)) :
    entryNamed? other (alterEntry name change entries)
      = if other = name then some (change ((entryNamed? name entries).getD empty))
        else entryNamed? other entries := by
  induction entries with
  | nil =>
    by_cases h : other = name
    · simp [alterEntry, entryNamed?, h]
    · simp [alterEntry, entryNamed?, h, Ne.symm h]
  | cons e entries ih =>
    obtain ⟨n, t⟩ := e
    rw [alterEntry]
    by_cases hn : n = name
    · subst hn
      by_cases h : other = n
      · simp [entryNamed?, h]
      · simp [entryNamed?, h, Ne.symm h]
    · by_cases h : other = name
      · subst h
        simp [entryNamed?, hn, ih]
      · simp [entryNamed?, hn, ih, h]

/-- Other bytes are at the end of the way and nowhere else: other files are as they were, and so are
directories but for what is below them. -/
theorem at?_put_file (h : tree.at? way = some (file old)) (bytes : ByteArray)
    (names : List Text) :
    (names = way ∧ (put (file bytes) way tree).at? names = some (file bytes))
      ∨ (names ≠ way ∧ ((put (file bytes) way tree).at? names = tree.at? names
        ∨ ∃ entries entries', tree.at? names = some (directory entries)
          ∧ (put (file bytes) way tree).at? names = some (directory entries'))) := by
  induction way generalizing tree names with
  | nil =>
    rw [at?_nil] at h
    cases h
    cases names with
    | nil => exact .inl ⟨rfl, rfl⟩
    | cons name names => exact .inr ⟨List.cons_ne_nil _ _, .inl rfl⟩
  | cons name way ih =>
    cases tree with
    | file bytes => cases h
    | directory entries =>
      obtain ⟨t, he, ht⟩ := Option.bind_eq_some_iff.1 h
      cases names with
      | nil => exact .inr ⟨List.cons_ne_nil _ _ |>.symm, .inr ⟨_, _, rfl, rfl⟩⟩
      | cons name' names =>
        rw [put, FileTree.entries, at?_directory, at?_directory, entryNamed?_alterEntry, he]
        by_cases hname : name' = name
        · subst hname
          rw [if_pos rfl, he]
          simpa using ih ht names
        · rw [if_neg hname]
          exact .inr ⟨fun heq => hname (List.cons.inj heq).1, .inl rfl⟩

/-- The files of a tree with a file put in are that file and those that were there before. -/
theorem at?_put {found : ByteArray} (h : (put (file bytes) way tree).at? names = some (file found)) :
    found = bytes ∨ tree.at? names = some (file found) := by
  induction way generalizing tree names with
  | nil =>
    cases names with
    | nil =>
      cases h
      exact .inl rfl
    | cons name names => cases h
  | cons name way ih =>
    cases names with
    | nil => cases h
    | cons name' names =>
      rw [put, at?_directory, entryNamed?_alterEntry] at h
      by_cases hname : name' = name
      · subst hname
        rw [if_pos rfl, Option.bind_some] at h
        refine (ih h).imp_right fun hbelow => ?_
        cases tree with
        | file bytes => cases names <;> cases hbelow
        | directory entries =>
          rw [FileTree.entries] at hbelow
          cases he : entryNamed? name' entries with
          | none =>
            rw [he] at hbelow
            cases names <;> cases hbelow
          | some t =>
            rw [he] at hbelow
            rw [at?_directory, he]
            exact hbelow
      · rw [if_neg hname] at h
        cases tree with
        | file bytes => cases h
        | directory entries => exact .inr h

theorem sameShape_put (h : tree.at? way = some (file old)) (bytes : ByteArray) :
    SameShape tree (put (file bytes) way tree) := by
  intro names
  rcases at?_put_file h bytes names with ⟨rfl, hput⟩ | ⟨-, hput | ⟨entries, entries', hat, hput⟩⟩
  · rw [h, hput]
    rfl
  · rw [hput]
  · rw [hat, hput]
    rfl

/-! ### Well-formed trees -/

variable {new : FileTree} {entries entries' : List (Text × FileTree)} {name : Text}

theorem wellFormed_entries (h : tree.WellFormed) : (directory tree.entries).WellFormed := by
  cases h with
  | file bytes =>
    exact .directory List.nodup_nil (fun _ h => absurd h List.not_mem_nil)
      (fun _ h => absurd h List.not_mem_nil)
  | directory nodup names trees => exact .directory nodup names trees

theorem wellFormed_empty : empty.WellFormed := wellFormed_entries (.file .empty)

theorem mem_alterEntry {change : FileTree → FileTree} {e : Text × FileTree}
    (h : e ∈ alterEntry name change entries) :
    e ∈ entries ∨ ∃ t, (t = empty ∨ (name, t) ∈ entries) ∧ e = (name, change t) := by
  induction entries with
  | nil => exact .inr ⟨empty, .inl rfl, List.mem_singleton.1 h⟩
  | cons first entries ih =>
    rw [alterEntry] at h
    by_cases hn : first.1 = name
    · rw [if_pos hn] at h
      rcases List.mem_cons.1 h with rfl | h
      · exact .inr ⟨first.2, .inr (List.mem_cons.2 (.inl (by rw [← hn]))), rfl⟩
      · exact .inl (List.mem_cons_of_mem _ h)
    · rw [if_neg hn] at h
      rcases List.mem_cons.1 h with rfl | h
      · exact .inl List.mem_cons_self
      · rcases ih h with h | ⟨t, ht, rfl⟩
        · exact .inl (List.mem_cons_of_mem _ h)
        · exact .inr ⟨t, ht.imp_right (List.mem_cons_of_mem _), rfl⟩

theorem nodup_alterEntry (name : Text) (change : FileTree → FileTree)
    (h : (entries.map (·.1)).Nodup) : ((alterEntry name change entries).map (·.1)).Nodup := by
  induction entries with
  | nil => simp [alterEntry]
  | cons first entries ih =>
    rw [List.map_cons, List.nodup_cons] at h
    rw [alterEntry]
    by_cases hn : first.1 = name
    · rw [if_pos hn, List.map_cons, List.nodup_cons, ← hn]
      exact h
    · rw [if_neg hn, List.map_cons, List.nodup_cons]
      refine ⟨fun hmem => ?_, ih h.2⟩
      obtain ⟨e, he, heq⟩ := List.mem_map.1 hmem
      rcases mem_alterEntry he with he | ⟨t, -, rfl⟩
      · exact h.1 (heq ▸ List.mem_map_of_mem he)
      · exact hn heq.symm

/-- A change to one entry leaves a directory well-formed. -/
theorem wellFormed_alterEntry {change : FileTree → FileTree}
    (h : (directory entries).WellFormed) (hname : Path.IsName name)
    (hchange : ∀ t : FileTree, t.WellFormed → (change t).WellFormed) :
    (directory (alterEntry name change entries)).WellFormed := by
  cases h with
  | directory nodup names trees =>
    refine .directory (nodup_alterEntry name change nodup) (fun e he => ?_) (fun e he => ?_)
    · rcases mem_alterEntry he with he | ⟨t, -, rfl⟩
      · exact names e he
      · exact hname
    · rcases mem_alterEntry he with he | ⟨t, rfl | ht, rfl⟩
      · exact trees e he
      · exact hchange _ wellFormed_empty
      · exact hchange t (trees _ ht)

theorem wellFormed_put (h : tree.WellFormed) (hnew : new.WellFormed)
    (hway : ∀ name ∈ way, Path.IsName name) : (put new way tree).WellFormed := by
  induction way generalizing tree with
  | nil => exact hnew
  | cons name way ih =>
    obtain ⟨hname, hway⟩ := List.forall_mem_cons.1 hway
    exact wellFormed_alterEntry (wellFormed_entries h) hname fun t ht => ih ht hway

/-- The names in a path are such as entries may have. -/
theorem isName_of_mem_way {path : Path} (h : name ∈ FileTree.way path) : Path.IsName name := by
  obtain ⟨c, hc, hname⟩ := List.mem_filterMap.1 h
  obtain rfl : c = .name name := by
    cases c with
    | name text => simpa [Component.name?] using hname
    | _ => cases hname
  rw [Path.components_eq, List.mem_append] at hc
  rcases hc with hc | hc
  · rcases Path.splitHead_cases path with ⟨_, _, hs⟩ | ⟨_, hs⟩ | ⟨_, _, hs⟩ | ⟨hs, _⟩
    · simp [hs] at hc
    · simp [hs] at hc
    · simp [hs] at hc
    · simp [hs] at hc
  · obtain ⟨piece, hpiece, hc⟩ := List.mem_filterMap.1 hc
    exact Path.isName_of_componentOf? (not_mem_of_mem_splitOn hpiece) hc

/-- Writing keeps a tree well-formed. -/
theorem wellFormed_write (h : tree.WellFormed) (path : Path) (bytes : ByteArray) :
    (tree.write path bytes).WellFormed :=
  wellFormed_put h (.file bytes) fun _ => isName_of_mem_way

/-! ### Paths -/

theorem sameShape_entryNamed? (h : SameShape (directory entries) (directory entries'))
    (name : Text) :
    (entryNamed? name entries = none ∧ entryNamed? name entries' = none)
      ∨ ∃ t t', entryNamed? name entries = some t ∧ entryNamed? name entries' = some t'
        ∧ SameShape t t' := by
  have hname := h [name]
  simp only [at?_directory] at hname
  cases he : entryNamed? name entries with
  | none =>
    cases he' : entryNamed? name entries' with
    | none => exact .inl ⟨rfl, rfl⟩
    | some t' => simp [he, he'] at hname
  | some t =>
    cases he' : entryNamed? name entries' with
    | none => simp [he, he'] at hname
    | some t' =>
      refine .inr ⟨t, t', rfl, rfl, fun names => ?_⟩
      have hnames := h (name :: names)
      simpa [he, he'] using hnames

/-- In trees of the same shape pieces lead to the same places, or fail alike. -/
theorem sameShape_follow {above above' : List FileTree} (h : SameShape tree other)
    (habove : List.Forall₂ SameShape above above') (pieces : List Text) :
    (∃ place place', follow above tree pieces = .ok place
        ∧ follow above' other pieces = .ok place' ∧ SameShape place place')
      ∨ ∃ fault, follow above tree pieces = .error fault
        ∧ follow above' other pieces = .error fault := by
  induction pieces generalizing tree other above above' with
  | nil => exact .inl ⟨tree, other, rfl, rfl, h⟩
  | cons piece pieces ih =>
    have hkind : tree.isFile = other.isFile := by simpa using h []
    cases tree with
    | file bytes =>
      cases other with
      | file bytes' => exact .inr ⟨.notDirectory, rfl, rfl⟩
      | directory entries' => cases hkind
    | directory entries =>
      cases other with
      | file bytes' => cases hkind
      | directory entries' =>
        rw [follow_directory, follow_directory]
        by_cases hidle : Path.isIdle piece = true
        · rw [if_pos hidle, if_pos hidle]
          exact ih h habove
        · rw [if_neg hidle, if_neg hidle]
          by_cases hdots : piece = ['.', '.']
          · rw [if_pos hdots, if_pos hdots]
            cases habove with
            | nil => exact ih h .nil
            | cons hparent habove => exact ih hparent habove
          · rw [if_neg hdots, if_neg hdots]
            rcases sameShape_entryNamed? h piece with ⟨he, he'⟩ | ⟨t, t', he, he', ht⟩
            · rw [he, he']
              exact .inr ⟨.missing, rfl, rfl⟩
            · rw [he, he']
              exact ih ht (.cons h habove)

end FileTree

namespace FileSystem

open FileTree

variable {files : FileSystem} {way : List Text} {old : ByteArray}

/-- A file system with other bytes in the file at the end of a way. -/
def rewrite (files : FileSystem) (way : List Text) (bytes : ByteArray) : FileSystem :=
  { files with root := put (.file bytes) way files.root }

theorem wayTo_rewrite (files : FileSystem) (way : List Text) (bytes : ByteArray) (path : Path) :
    (files.rewrite way bytes).wayTo path = files.wayTo path := rfl

/-- Every path leads where it led. -/
theorem find_rewrite (h : files.root.at? way = some (.file old)) (bytes : ByteArray)
    (path : Path) :
    (∃ place place', files.find path = .ok place ∧ (files.rewrite way bytes).find path = .ok place'
        ∧ SameShape place place')
      ∨ ∃ fault, files.find path = .error fault
        ∧ (files.rewrite way bytes).find path = .error fault := by
  by_cases hpath : path = []
  · rw [hpath]
    exact .inr ⟨.missing, rfl, rfl⟩
  · rw [find_eq hpath, find_eq hpath]
    exact sameShape_follow (sameShape_put h bytes) .nil _

theorem hasFile_rewrite (h : files.root.at? way = some (.file old)) (bytes : ByteArray)
    (path : Path) : (files.rewrite way bytes).hasFile path = files.hasFile path := by
  rw [hasFile, hasFile]
  rcases find_rewrite h bytes path with ⟨place, place', hp, hp', hshape⟩ | ⟨fault, hp, hp'⟩
  · rw [hp, hp']
    simpa using (hshape []).symm
  · rw [hp, hp']

/-- Other files read as before. -/
theorem read_rewrite (h : files.root.at? way = some (.file old)) (bytes : ByteArray)
    {path : Path} (hpath : files.wayTo path ≠ way) :
    (files.rewrite way bytes).read path = files.read path := by
  rw [read, read]
  rcases find_rewrite h bytes path with ⟨place, place', hp, hp', -⟩ | ⟨fault, hp, hp'⟩
  · have hat := at?_wayTo hp
    have hat' := at?_wayTo hp'
    rw [wayTo_rewrite] at hat'
    rw [hp, hp']
    rcases at?_put_file h bytes (files.wayTo path) with
      ⟨heq, -⟩ | ⟨-, hput | ⟨entries, entries', hdir, hput⟩⟩
    · exact absurd heq hpath
    · have hplace : place' = place := by
        rw [← Option.some_inj, ← hat', ← hat]
        exact hput
      rw [hplace]
    · rw [hdir, Option.some_inj] at hat
      rw [show (files.rewrite way bytes).root = put (.file bytes) way files.root from rfl, hput,
        Option.some_inj] at hat'
      rw [← hat, ← hat']
  · rw [hp, hp']

end FileSystem

end Testbook
