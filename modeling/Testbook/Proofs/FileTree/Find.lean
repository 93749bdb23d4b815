import Testbook.FileTree.Basic
import Testbook.Proofs.Path.Components

/-!
Where paths lead. What a path leads to is at the end of a way of names from the root of the tree,
and the way can be read off the path alone (`at?_wayTo`): what `follow` keeps is that the directories
that it remembers are those around the place it has come to (`Stands`). Two paths with the same steps
lead to the same place, if both lead anywhere (`find_of_steps`); names behind a path lead on from
there (`find_below`).
-/

namespace Testbook

open Testbook.Text

namespace FileTree

/-- What is at the end of a way of names in a tree. -/
def at? : FileTree → List Text → Option FileTree
  | tree, [] => some tree
  | file _, _ :: _ => none
  | directory entries, name :: names => (entryNamed? name entries).bind (at? · names)

/-- The way that pieces of a path lead to, from the end of a way of names. -/
def wayFrom : List Text → List Text → List Text
  | way, [] => way
  | way, piece :: pieces =>
    if Path.isIdle piece then wayFrom way pieces
    else if piece = ['.', '.'] then wayFrom way.dropLast pieces
    else wayFrom (way ++ [piece]) pieces

variable {root here place : FileTree} {above : List FileTree} {way pieces names : List Text}

@[simp] theorem at?_nil (tree : FileTree) : tree.at? [] = some tree := by rw [at?.eq_def]

@[simp] theorem at?_file (bytes : ByteArray) (name : Text) (names : List Text) :
    (file bytes).at? (name :: names) = none := rfl

@[simp] theorem at?_directory (entries : List (Text × FileTree)) (name : Text)
    (names : List Text) :
    (directory entries).at? (name :: names) = (entryNamed? name entries).bind (at? · names) := rfl

theorem at?_append (tree : FileTree) (front names : List Text) :
    tree.at? (front ++ names) = (tree.at? front).bind (at? · names) := by
  induction front generalizing tree with
  | nil => simp
  | cons name front ih =>
    cases tree with
    | file bytes => rfl
    | directory entries =>
      cases he : entryNamed? name entries with
      | none => simp [he]
      | some tree => simp [he, ih]

/-! ### Following pieces -/

theorem follow_directory (above : List FileTree) (entries : List (Text × FileTree)) (piece : Text)
    (pieces : List Text) :
    follow above (directory entries) (piece :: pieces)
      = if Path.isIdle piece then follow above (directory entries) pieces
        else if piece = ['.', '.'] then
          match above with
          | [] => follow [] (directory entries) pieces
          | parent :: above => follow above parent pieces
        else match entryNamed? piece entries with
          | some tree => follow (directory entries :: above) tree pieces
          | none => .error .missing := rfl

/-- What pieces lead to, step by step. -/
inductive Leads : List FileTree → FileTree → List Text → FileTree → Prop
  | here (above : List FileTree) (place : FileTree) : Leads above place [] place
  | idle {above : List FileTree} {entries : List (Text × FileTree)} {piece : Text}
      {pieces : List Text} {place : FileTree} (hidle : Path.isIdle piece = true)
      (h : Leads above (directory entries) pieces place) :
      Leads above (directory entries) (piece :: pieces) place
  | top {entries : List (Text × FileTree)} {pieces : List Text} {place : FileTree}
      (h : Leads [] (directory entries) pieces place) :
      Leads [] (directory entries) (['.', '.'] :: pieces) place
  | up {parent : FileTree} {above : List FileTree} {entries : List (Text × FileTree)}
      {pieces : List Text} {place : FileTree} (h : Leads above parent pieces place) :
      Leads (parent :: above) (directory entries) (['.', '.'] :: pieces) place
  | down {above : List FileTree} {entries : List (Text × FileTree)} {piece : Text} {tree : FileTree}
      {pieces : List Text} {place : FileTree} (hidle : Path.isIdle piece = false)
      (hdots : piece ≠ ['.', '.']) (he : entryNamed? piece entries = some tree)
      (h : Leads (directory entries :: above) tree pieces place) :
      Leads above (directory entries) (piece :: pieces) place

theorem leads_of_follow (h : follow above here pieces = .ok place) :
    Leads above here pieces place := by
  induction pieces generalizing above here with
  | nil =>
    cases h
    exact .here above _
  | cons piece pieces ih =>
    cases here with
    | file bytes => cases h
    | directory entries =>
      rw [follow_directory] at h
      by_cases hidle : Path.isIdle piece = true
      · rw [if_pos hidle] at h
        exact .idle hidle (ih h)
      · rw [if_neg hidle] at h
        by_cases hdots : piece = ['.', '.']
        · rw [if_pos hdots] at h
          rw [hdots]
          cases above with
          | nil => exact .top (ih h)
          | cons parent above => exact .up (ih h)
        · rw [if_neg hdots] at h
          cases he : entryNamed? piece entries with
          | none => simp [he] at h
          | some tree =>
            rw [he] at h
            exact .down (by simpa using hidle) hdots he (ih h)

theorem Leads.follow (h : Leads above here pieces place) :
    FileTree.follow above here pieces = .ok place := by
  induction h with
  | here => rfl
  | idle hidle _ ih => rw [follow_directory, if_pos hidle, ih]
  | top _ ih => exact ih
  | up _ ih => exact ih
  | down hidle hdots he _ ih =>
    rw [follow_directory, if_neg (by simp [hidle]), if_neg hdots, he]
    exact ih

/-- The directories around the place at the end of a way, the innermost first. -/
inductive Stands (root : FileTree) : List Text → List FileTree → FileTree → Prop
  | root : Stands root [] [] root
  | entry {way : List Text} {above : List FileTree} {entries : List (Text × FileTree)}
      {name : Text} {here : FileTree} (h : Stands root way above (directory entries))
      (he : entryNamed? name entries = some here) :
      Stands root (way ++ [name]) (directory entries :: above) here

theorem Stands.at?_way (h : Stands root way above here) : root.at? way = some here := by
  induction h with
  | root => simp
  | entry _ he ih => simp [at?_append, ih, he]

/-- Pieces lead to the end of their way, with the directories around it remembered. -/
theorem Stands.leads (h : Stands root way above here) (hl : Leads above here pieces place) :
    ∃ above', Stands root (wayFrom way pieces) above' place := by
  induction hl generalizing way with
  | here above place => exact ⟨above, h⟩
  | idle hidle _ ih =>
    rw [wayFrom, if_pos hidle]
    exact ih h
  | top _ ih =>
    cases h
    exact ih .root
  | up _ ih =>
    cases h with
    | entry h he =>
      rw [wayFrom, if_neg (by decide), if_pos rfl, List.dropLast_concat]
      exact ih h
  | down hidle hdots he _ ih =>
    rw [wayFrom, if_neg (by simp [hidle]), if_neg hdots]
    exact ih (h.entry he)

/-- Names lead down from where they start. -/
theorem leads_of_at? (above : List FileTree) (h : here.at? names = some place)
    (hnames : ∀ name ∈ names, Path.IsName name) : Leads above here names place := by
  induction names generalizing above here with
  | nil =>
    rw [at?_nil] at h
    cases h
    exact .here above _
  | cons name names ih =>
    obtain ⟨hname, hnames⟩ := List.forall_mem_cons.1 hnames
    cases here with
    | file bytes => cases h
    | directory entries =>
      obtain ⟨tree, he, htree⟩ := Option.bind_eq_some_iff.1 h
      exact .down hname.2.1 hname.2.2 he (ih _ htree hnames)

/-- Names lead on from where pieces lead. -/
theorem Leads.append_names {found : FileTree} (h : Leads above here pieces place)
    (hfound : place.at? names = some found) (hnames : ∀ name ∈ names, Path.IsName name) :
    Leads above here (pieces ++ names) found := by
  induction h with
  | here above place => exact leads_of_at? above hfound hnames
  | idle hidle _ ih => exact .idle hidle (ih hfound)
  | top _ ih => exact .top (ih hfound)
  | up _ ih => exact .up (ih hfound)
  | down hidle hdots he _ ih => exact .down hidle hdots he (ih hfound)

/-- Where pieces lead the others lead without the idle ones. -/
theorem Leads.filter (h : Leads above here pieces place) :
    Leads above here (pieces.filter (!Path.isIdle ·)) place := by
  induction h with
  | here above place => exact .here above place
  | idle hidle _ ih => simpa [hidle] using ih
  | top _ ih => exact .top ih
  | up _ ih => exact .up ih
  | down hidle hdots he _ ih => simpa [hidle] using Leads.down hidle hdots he ih

/-- Idle pieces in front of another one make no difference. -/
theorem follow_filter_concat (above : List FileTree) (here : FileTree) (pieces : List Text)
    (last : Text) :
    follow above here (pieces ++ [last])
      = follow above here (pieces.filter (!Path.isIdle ·) ++ [last]) := by
  induction pieces generalizing above here with
  | nil => rfl
  | cons piece pieces ih =>
    cases here with
    | file bytes =>
      -- something is left behind the file on both sides
      obtain ⟨next, rest, hrest⟩ : ∃ next rest,
          (piece :: pieces).filter (!Path.isIdle ·) ++ [last] = next :: rest :=
        List.exists_cons_of_ne_nil (by simp)
      rw [hrest]
      rfl
    | directory entries =>
      by_cases hidle : Path.isIdle piece = true
      · rw [List.cons_append, follow_directory, if_pos hidle, ih, List.filter_cons_of_neg]
        simp [hidle]
      · rw [List.filter_cons_of_pos (by simpa using hidle), List.cons_append, List.cons_append,
          follow_directory, follow_directory, if_neg hidle, if_neg hidle]
        simp only [ih]

theorem wayFrom_append (way front pieces : List Text) :
    wayFrom way (front ++ pieces) = wayFrom (wayFrom way front) pieces := by
  induction front generalizing way with
  | nil => rfl
  | cons piece front ih =>
    rw [List.cons_append, wayFrom, wayFrom]
    split
    · exact ih way
    · split
      · exact ih _
      · exact ih _

theorem wayFrom_names (way : List Text) (h : ∀ name ∈ names, Path.IsName name) :
    wayFrom way names = way ++ names := by
  induction names generalizing way with
  | nil => simp [wayFrom]
  | cons name names ih =>
    obtain ⟨hname, hnames⟩ := List.forall_mem_cons.1 h
    rw [wayFrom, hname.2.1, if_neg (by decide), if_neg hname.2.2, ih _ hnames, List.append_assoc]
    rfl

end FileTree

namespace FileSystem

open FileTree

variable {files : FileSystem} {path : Path} {place : FileTree}

/-- The pieces that lead from the root to a path with the given steps. -/
def route (files : FileSystem) (steps : List Component) : List Text :=
  (if .root ∈ steps then [] else files.workingDirectory.filter (!Path.isIdle ·))
    ++ (steps.filter (· != .root)).map Component.text

/-- The names on the way from the root to where a path leads. -/
def wayTo (files : FileSystem) (path : Path) : List Text :=
  wayFrom [] (files.route (Path.steps path))

/-- The pieces that are followed for a path, without the idle ones. -/
theorem route_steps (files : FileSystem) (path : Path) :
    files.route (Path.steps path)
      = ((if path.head? = some '/' then [] else files.workingDirectory)
          ++ splitOn '/' path).filter (!Path.isIdle ·) := by
  rw [route, ← Path.pieces_eq, List.filter_append, Path.pieces]
  simp only [Path.mem_steps_root]
  split <;> rfl

theorem find_eq (h : path ≠ []) :
    files.find path = files.root.follow []
      ((if path.head? = some '/' then [] else files.workingDirectory) ++ splitOn '/' path) := by
  rw [find.eq_def]
  split
  · exact absurd rfl h
  · simp
  · next c rest hslash =>
    have hc : c ≠ '/' := hslash
    simp [hc]

theorem ne_nil_of_find (h : files.find path = .ok place) : path ≠ [] := by
  rintro rfl
  cases h

/-- A path that leads anywhere leads there by its steps. -/
theorem leads_of_find (h : files.find path = .ok place) :
    Leads [] files.root (files.route (Path.steps path)) place := by
  rw [find_eq (ne_nil_of_find h)] at h
  rw [route_steps]
  exact (leads_of_follow h).filter

/-- What is at a path is at the end of its way. -/
theorem at?_wayTo (h : files.find path = .ok place) :
    files.root.at? (files.wayTo path) = some place := by
  have hroot : Stands files.root [] [] files.root := .root
  obtain ⟨above, hstands⟩ := hroot.leads (leads_of_find h)
  exact hstands.at?_way

/-- Paths with the same steps do not lead to different places. -/
theorem find_of_steps {other : Path} {found : FileTree} (hsteps : Path.steps path = Path.steps other)
    (h : files.find path = .ok place) (hother : files.find other = .ok found) : place = found := by
  have hleads := (leads_of_find h).follow
  rw [hsteps, (leads_of_find hother).follow] at hleads
  cases hleads
  rfl

theorem route_concat (files : FileSystem) (steps : List Component) (names : List Text) :
    files.route (steps ++ names.map .name) = files.route steps ++ names := by
  have hroot : .root ∈ steps ++ names.map Component.name ↔ .root ∈ steps := by simp
  have hnames : ((names.map Component.name).filter (· != .root)).map Component.text = names := by
    rw [List.filter_eq_self.2 (by simp), List.map_map]
    exact List.map_id names
  simp only [route, hroot, List.filter_append, List.map_append, hnames, List.append_assoc]

/-- What a name behind a path leads to depends on the steps of the path alone. -/
theorem find_extend {name : Text} (hname : Path.IsName name) :
    files.find (Path.extend path name)
      = files.root.follow [] (files.route (Path.steps path) ++ [name]) := by
  have hroute := files.route_steps (Path.extend path name)
  obtain ⟨front, hsplit, -⟩ := Path.exists_splitOn_extend path hname.1
  have hne : Path.extend path name ≠ [] := by
    intro hnil
    have hsteps := Path.steps_extend path hname
    rw [hnil] at hsteps
    cases hs : Path.steps path with
    | nil => rw [hs] at hsteps; cases hsteps
    | cons => rw [hs] at hsteps; cases hsteps
  rw [Path.steps_extend path hname, hsplit, ← List.append_assoc, List.filter_append] at hroute
  have hlast : [name].filter (!Path.isIdle ·) = [name] := by simp [hname.2.1]
  rw [hlast, ← List.map_singleton, route_concat] at hroute
  rw [find_eq hne, hsplit, ← List.append_assoc, follow_filter_concat,
    (List.append_inj' hroute rfl).1]

theorem find_normalize (h : Path.pieces path ≠ []) :
    files.find (Path.normalize path) = files.root.follow [] (files.route (Path.steps path)) := by
  have hroute := files.route_steps (Path.normalize path)
  obtain ⟨front, last, hlast⟩ := (List.eq_nil_or_concat (Path.pieces path)).resolve_left h
  rw [List.concat_eq_append] at hlast
  have hidle : Path.isIdle last = false := by
    have hmem : last ∈ Path.pieces path := by simp [hlast]
    simpa using (List.mem_filter.1 hmem).2
  have hfilter : [last].filter (!Path.isIdle ·) = [last] := by simp [hidle]
  obtain ⟨more, hsplit⟩ := Path.exists_splitOn_normalize hlast
  rw [Path.steps_normalize, hsplit, ← List.append_assoc, List.filter_append] at hroute
  rw [find_eq (Path.normalize_ne_nil path), hsplit, ← List.append_assoc, follow_filter_concat,
    hroute, hfilter]

/-- Names below a path lead on from where it leads. -/
theorem find_below {names : List Text} {found : FileTree} (h : files.find path = .ok place)
    (hfound : place.at? names = some found) (hne : names ≠ [])
    (hnames : ∀ name ∈ names, Path.IsName name) :
    files.find (Path.normalize (Path.below path names)) = .ok found := by
  have hsteps := Path.steps_below path hnames
  have hpieces : Path.pieces (Path.below path names) ≠ [] := by
    rw [Path.pieces_eq, hsteps]
    obtain ⟨name, rest, rfl⟩ := List.exists_cons_of_ne_nil hne
    simp
  rw [find_normalize hpieces, hsteps, route_concat]
  exact ((leads_of_find h).append_names hfound hnames).follow

theorem wayTo_normalize (files : FileSystem) (path : Path) :
    files.wayTo (Path.normalize path) = files.wayTo path := by
  rw [wayTo, Path.steps_normalize, wayTo]

theorem wayTo_below (files : FileSystem) (path : Path) {names : List Text}
    (h : ∀ name ∈ names, Path.IsName name) :
    files.wayTo (Path.below path names) = files.wayTo path ++ names := by
  rw [wayTo, Path.steps_below path h, route_concat, wayFrom_append, wayFrom_names _ h, wayTo]

theorem decode_utf8Encode (text : Text) : decode text.utf8Encode = .ok text := by
  rw [decode, List.utf8Decode?_utf8Encode]

end FileSystem

end Testbook
