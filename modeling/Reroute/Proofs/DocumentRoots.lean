import Reroute.Files
import Reroute.Proofs.AgreeingTables

/-!
# Files below a document root

A file test looks at the path of a candidate below the document root. The names of this path are
those of the root and then those of the candidate, and a candidate that goes up at any of its names
is not looked for at all. So what stands at the root is all that a test depends on: where it is the
same, the rest of the disk may be any.

Results:
1. `splitAll_append`, `mem_splitAll_iff`: the names of a path.
2. `follow_append`, `follow_alike`: paths that do not go up stay below where they begin.
3. `find_of_climbs`, `find_eq`: candidates that are refused, and where the others are found.
4. `tests_confined`: what the file tests depend on.
-/

namespace Reroute

open Reroute.Text

/-! ## 1. Names -/

namespace Text

variable {separator : Char}

theorem splitAll_ne_nil (separator : Char) (cs : List Char) : splitAll separator cs ≠ [] :=
  (Directive.splitAll_pieces separator cs).1

/-- The pieces on both sides of a separator. -/
theorem splitAll_append (front back : List Char) :
    splitAll separator (front ++ separator :: back) =
      splitAll separator front ++ splitAll separator back := by
  induction front with
  | nil => simp [splitAll]
  | cons c rest ih =>
    by_cases here : c = separator
    · simp [splitAll, here, ih]
    · rw [List.cons_append, splitAll, splitAll, if_neg here, if_neg here, ih]
      cases pieces : splitAll separator rest with
      | nil => exact absurd pieces (splitAll_ne_nil separator rest)
      | cons piece others => rfl

/-- The text is a whole name of the path: what stands on its two sides is empty, or a separator is
next to it. -/
def IsName (separator : Char) (path name : List Char) : Prop :=
  ∃ front back, path = front ++ (name ++ back) ∧
    (front = [] ∨ front.getLast? = some separator) ∧ (back = [] ∨ back.head? = some separator)

theorem isName_of_mem {path name : List Char} (member : name ∈ splitAll separator path) :
    IsName separator path name := by
  by_cases divided : separator ∈ path
  · obtain ⟨first, rest, whole, free⟩ := List.eq_append_cons_of_mem divided
    have shorter : rest.length < path.length := by
      rw [whole, List.length_append, List.length_cons]
      omega
    rw [whole, (splitAll_of_free free).2] at member
    rcases List.mem_cons.mp member with rfl | later
    · exact ⟨[], separator :: rest, whole, .inl rfl, .inr rfl⟩
    · obtain ⟨front, back, inside, atFront, atBack⟩ := isName_of_mem later
      refine ⟨first ++ separator :: front, back, by simp [whole, inside], .inr ?_, atBack⟩
      rcases atFront with rfl | ends
      · simp
      · rw [List.getLast?_append, List.getLast?_cons, ends]
        rfl
  · rw [(splitAll_of_free divided).1, List.mem_singleton] at member
    exact ⟨[], [], by simp [member], .inl rfl, .inl rfl⟩
termination_by path.length

theorem mem_splitAll_iff {path name : List Char} (free : separator ∉ name) :
    name ∈ splitAll separator path ↔ IsName separator path name := by
  refine ⟨isName_of_mem, ?_⟩
  rintro ⟨front, back, rfl, atFront, atBack⟩
  have first : name ∈ splitAll separator (name ++ back) := by
    rcases atBack with rfl | starts
    · simp [(splitAll_of_free free).1]
    · obtain ⟨rest, rfl⟩ := List.head?_eq_some_iff.mp starts
      simp [(splitAll_of_free free).2]
  rcases atFront with rfl | ends
  · exact first
  · obtain ⟨before, rfl⟩ := List.getLast?_eq_some_iff.mp ends
    rw [List.append_assoc, List.singleton_append, splitAll_append]
    exact List.mem_append_right _ first

end Text

/-! ## 2. Paths that do not go up -/

namespace Node

/-- The same names, for files and for directories. What is in the files does not count. -/
inductive Alike : Node → Node → Prop
  | file (content content' : String) : Alike (.file content) (.file content')
  | directory {entries entries' : List (String × Node)} :
      (∀ name, (member? entries name).isSome = (member? entries' name).isSome) →
      (∀ name child child', member? entries name = some child →
        member? entries' name = some child' → Alike child child') →
      Alike (.directory entries) (.directory entries')

theorem Alike.member {entries entries' : List (String × Node)}
    (alike : Alike (.directory entries) (.directory entries')) (name : String) :
    Option.Rel Alike (member? entries name) (member? entries' name) := by
  cases alike with
  | directory names children =>
    have same := names name
    cases here : member? entries name with
    | none =>
      rw [here] at same
      rw [Option.isSome_eq_false_iff.mp same.symm |> Option.isNone_iff_eq_none.mp]
      exact .none
    | some child =>
      rw [here] at same
      obtain ⟨child', here'⟩ := Option.isSome_iff_exists.mp same.symm
      rw [here']
      exact .some (children name child child' here here')

theorem Alike.isFile {n n' : Node} (alike : n.Alike n') : n.isFile = n'.isFile := by
  cases alike <;> rfl

theorem Alike.isDirectory {n n' : Node} (alike : n.Alike n') : n.isDirectory = n'.isDirectory := by
  cases alike <;> rfl

theorem Alike.refl (n : Node) : n.Alike n := by
  match n with
  | .file content => exact .file content content
  | .directory entries =>
    refine .directory (fun _ => rfl) fun name child child' here here' => ?_
    cases here.symm.trans here'
    have inside : (name, child) ∈ entries := by
      obtain ⟨_, _, whole, _⟩ := List.lookup_eq_some_iff.mp here
      simp [whole]
    have smaller : sizeOf child < 1 + sizeOf entries := by
      have entry := List.sizeOf_lt_of_mem inside
      rw [Prod.mk.sizeOf_spec] at entry
      omega
    exact Alike.refl child
termination_by sizeOf n

theorem sameOutcome (outcome : Except FileError (Option Node)) :
    Parallel (Option.Rel Alike) outcome outcome := by
  match outcome with
  | .error e => exact .error e
  | .ok none => exact .ok .none
  | .ok (some n) => exact .ok (.some (.refl n))

/-- Two dots. -/
def upward : List Char := ['.', '.']

variable {names : List (List Char)}

/-- From alike nodes, a path that does not go up leads to alike nodes, or it fails alike. The
directories above the nodes do not matter. -/
theorem follow_alike (calm : upward ∉ names) {n n' : Node} (alike : n.Alike n')
    (above above' : List Node) :
    Parallel (Option.Rel Alike) (n.follow above names) (n'.follow above' names) := by
  induction names generalizing n n' above above' with
  | nil => exact .ok (.some alike)
  | cons name rest ih =>
    obtain ⟨here, later⟩ := not_or.mp (calm ∘ List.mem_cons.mpr)
    cases alike with
    | file => exact .error _
    | @directory entries entries' same children =>
      have alike : Alike (.directory entries) (.directory entries') := .directory same children
      have goesDown : name ≠ ['.', '.'] := fun up => here up.symm
      unfold follow
      simp only [goesDown, if_false]
      split
      · exact ih later alike above above'
      · split
        · exact .error _
        · have found := alike.member (String.ofList name)
          generalize member? entries (String.ofList name) = child,
            member? entries' (String.ofList name) = child' at found
          cases found with
          | none => exact .ok .none
          | some below => exact ih later below _ _

theorem follow_calm (calm : upward ∉ names) (above above' : List Node) (n : Node) :
    n.follow above names = n.follow above' names := by
  induction names generalizing n above above' with
  | nil => rfl
  | cons name rest ih =>
    obtain ⟨here, later⟩ := not_or.mp (calm ∘ List.mem_cons.mpr)
    have goesDown : name ≠ ['.', '.'] := fun up => here up.symm
    cases n with
    | file => rfl
    | directory entries =>
      unfold follow
      dsimp only
      rw [if_neg goesDown, if_neg goesDown]
      split
      · exact ih later _ _ _
      · split
        · rfl
        · split
          · rfl
          · exact ih later _ _ _

/-- Goes on with a path where another one leads. -/
def onward (names : List (List Char)) : Option Node → Except FileError (Option Node)
  | none => .ok none
  | some n => n.follow [] names

/-- A path that does not go up is followed from where the path in front of it leads. -/
theorem follow_append (calm : upward ∉ names) (front : List (List Char)) (above : List Node)
    (n : Node) :
    n.follow above (front ++ names) = n.follow above front >>= onward names := by
  induction front generalizing n above with
  | nil => exact follow_calm calm above [] n
  | cons name rest ih =>
    cases n with
    | file => rfl
    | directory entries =>
      rw [List.cons_append]
      unfold follow
      dsimp only
      split
      · exact ih _ _
      · split
        · split
          · exact ih _ _
          · exact ih _ _
        · split
          · rfl
          · split
            · rfl
            · exact ih _ _

/-- An empty name in front of another one says nothing. -/
theorem follow_empty (front : List (List Char)) (filled : names ≠ []) (above : List Node)
    (n : Node) :
    n.follow above (front ++ [] :: names) = n.follow above (front ++ names) := by
  induction front generalizing n above with
  | nil =>
    cases n with
    | directory entries => rfl
    | file =>
      cases names with
      | nil => exact absurd rfl filled
      | cons name rest => rfl
  | cons name rest ih =>
    cases n with
    | file => rfl
    | directory entries =>
      rw [List.cons_append, List.cons_append]
      unfold follow
      simp only [ih]

end Node

/-! ## 3. Candidates -/

/-- The names of the directory that a path starts from, from the top of the disk. -/
def Disk.start (disk : Disk) (path : List Char) : List (List Char) :=
  if path.head? = some separator then [] else disk.working.map String.toList

/-- The names of a path, from the top of the disk. -/
def Disk.way (disk : Disk) (path : List Char) : List (List Char) :=
  disk.start path ++ splitAll separator path

/-- What is known of a path before the disk is looked at. -/
def Disk.unseen? (path : List Char) : Option (Except FileError (Option Node)) :=
  if path.contains '\x00' then some (.error .invalidName)
  else if path.isEmpty then some (.ok none)
  else if pathLimit < byteLength path then some (.error .nameTooLong)
  else none

theorem Disk.unseen?_ne_found {path : List Char} {n : Node} :
    Disk.unseen? path ≠ some (.ok (some n)) := by
  unfold unseen?
  repeat' split
  all_goals simp

theorem Disk.find_eq (disk : Disk) (path : String) :
    disk.find path =
      (Disk.unseen? path.toList).getD (disk.top.follow [] (disk.way path.toList)) := by
  unfold find unseen? way start
  dsimp only
  split
  · rfl
  · split
    · rfl
    · split <;> rfl

namespace DocumentRoot

/-- The candidate without the slashes at its start. -/
def relative (candidate : String) : List Char :=
  candidate.toList.dropWhile (· == Disk.separator)

/-- A name of the candidate goes up. -/
def Climbs (candidate : String) : Prop :=
  IsName Disk.separator (relative candidate) Node.upward

/-- What stands at the root: a node, nothing, or what makes it impossible to look. -/
def tree (d : DocumentRoot) : Except FileError (Option Node) :=
  d.disk.top.follow [] (d.disk.way d.root.toList)

theorem mem_relative_iff (candidate : String) :
    Node.upward ∈ splitAll Disk.separator (relative candidate) ↔ Climbs candidate :=
  mem_splitAll_iff (by decide)

theorem resolve?_of_climbs (d : DocumentRoot) {candidate : String} (climbs : Climbs candidate) :
    d.resolve? candidate = none := by
  unfold resolve?
  exact if_pos (List.contains_iff_mem.mpr ((mem_relative_iff candidate).mpr climbs))

theorem resolve?_of_not_climbs (d : DocumentRoot) {candidate : String}
    (stays : ¬Climbs candidate) :
    d.resolve? candidate = some (join d.root (String.ofList (relative candidate))) := by
  unfold resolve?
  exact if_neg fun listed =>
    stays ((mem_relative_iff candidate).mp (List.contains_iff_mem.mp listed))

theorem head?_relative (candidate : String) :
    (relative candidate).head? ≠ some Disk.separator := by
  intro first
  obtain ⟨rest, starts⟩ := List.head?_eq_some_iff.mp first
  have stops := List.head?_dropWhile_not (· == Disk.separator) candidate.toList
  simp [relative] at starts
  simp [starts] at stops

/-- The way to a path below a directory is the way to the directory, less an empty name at its end,
and then the names of the path. -/
theorem way_join (disk : Disk) (root : String) {path : List Char}
    (below : path.head? ≠ some Disk.separator) :
    disk.way (join root (String.ofList path)).toList =
        disk.way root.toList ++ splitAll Disk.separator path ∨
      ∃ front, disk.way root.toList = front ++ [[]] ∧
        disk.way (join root (String.ofList path)).toList =
          front ++ splitAll Disk.separator path := by
  by_cases empty : root = ""
  · subst empty
    right
    exact ⟨disk.working.map String.toList, rfl, by simp [join, Disk.way, Disk.start, below]⟩
  have filled : root.toList ≠ [] := by simpa using empty
  have start : ∀ more, disk.start (root.toList ++ more) = disk.start root.toList := by
    intro more
    rw [Disk.start, List.head?_append_of_ne_nil _ filled, Disk.start]
  by_cases closed : root.toList.getLast? = some Disk.separator
  · right
    have whole : (join root (String.ofList path)).toList = root.toList ++ path := by
      simp [join, closed]
    obtain ⟨inner, ends⟩ := List.getLast?_eq_some_iff.mp closed
    refine ⟨disk.start root.toList ++ splitAll Disk.separator inner, ?_, ?_⟩
    · rw [Disk.way, List.append_assoc, ends, splitAll_append]
      rfl
    · rw [whole, Disk.way, start, List.append_assoc, ends, List.append_assoc,
        List.singleton_append, splitAll_append]
  · left
    have whole : (join root (String.ofList path)).toList =
        root.toList ++ Disk.separator :: path := by
      rw [join, if_neg (by simp [closed, empty])]
      simp [Disk.separator]
    rw [whole, Disk.way, start, splitAll_append, Disk.way, List.append_assoc]

/-- Below the root, a candidate that does not go up is found from what stands at the root. -/
theorem find_eq (d : DocumentRoot) {candidate : String} (stays : ¬Climbs candidate) :
    d.find candidate =
      (Disk.unseen? (join d.root (String.ofList (relative candidate))).toList).getD
        (d.tree >>= Node.onward (splitAll Disk.separator (relative candidate))) := by
  have calm : Node.upward ∉ splitAll Disk.separator (relative candidate) :=
    fun listed => stays ((mem_relative_iff candidate).mp listed)
  unfold find
  rw [d.resolve?_of_not_climbs stays]
  dsimp only
  rw [Disk.find_eq]
  congr 1
  rcases way_join d.disk d.root (head?_relative candidate) with whole | ⟨front, closed, whole⟩
  · rw [whole, Node.follow_append calm, tree]
  · rw [whole, tree, closed, ← Node.follow_append calm, List.append_assoc, List.singleton_append,
      Node.follow_empty _ (splitAll_ne_nil _ _)]

/-! ## 4. File tests -/

/-- The roots have the same path, and what stands there is alike: the same names of files and of
directories at every depth, or no root for the same reason. -/
structure Agree (d d' : DocumentRoot) : Prop where
  root : d.root = d'.root
  tree : Parallel (Option.Rel Node.Alike) d.tree d'.tree

theorem find_of_climbs (d : DocumentRoot) {candidate : String} (climbs : Climbs candidate) :
    d.find candidate = .ok none := by
  unfold find
  rw [d.resolve?_of_climbs climbs]

theorem Agree.find {d d' : DocumentRoot} (agree : d.Agree d') (candidate : String) :
    Parallel (Option.Rel Node.Alike) (d.find candidate) (d'.find candidate) := by
  by_cases climbs : Climbs candidate
  · rw [d.find_of_climbs climbs, d'.find_of_climbs climbs]
    exact .ok .none
  · have calm : Node.upward ∉ splitAll Disk.separator (relative candidate) :=
      fun listed => climbs ((mem_relative_iff candidate).mp listed)
    rw [d.find_eq climbs, d'.find_eq climbs, agree.root]
    cases Disk.unseen? (join d'.root (String.ofList (relative candidate))).toList with
    | some outcome => exact Node.sameOutcome outcome
    | none =>
      refine agree.tree.bind fun found found' alike => ?_
      cases alike with
      | none => exact .ok .none
      | some alike => exact Node.follow_alike calm alike [] []

/-- A test that tells files from directories has the same answer at both roots. -/
theorem Agree.test {d d' : DocumentRoot} (agree : d.Agree d') {p : Node → Bool}
    (kinds : ∀ n n', n.Alike n' → p n = p n') (candidate : String) :
    d.test p candidate = d'.test p candidate := by
  unfold DocumentRoot.test
  have found := agree.find candidate
  generalize d.find candidate = outcome, d'.find candidate = outcome' at found
  cases found with
  | error e => rfl
  | ok alike =>
    cases alike with
    | none => rfl
    | some alike => exact congrArg Except.ok (kinds _ _ alike)

theorem test_of_climbs (d : DocumentRoot) (p : Node → Bool) {candidate : String}
    (climbs : Climbs candidate) : d.test p candidate = .ok false := by
  rw [test, d.find_of_climbs climbs]
  rfl

/-- Where there is no root, nothing is found. -/
theorem test_of_missing {d : DocumentRoot} (missing : ∀ n, d.tree ≠ .ok (some n)) (p : Node → Bool)
    (candidate : String) : d.test p candidate ≠ .ok true := by
  have nothing : ∀ n, d.find candidate ≠ .ok (some n) := by
    intro n found
    by_cases climbs : Climbs candidate
    · rw [d.find_of_climbs climbs] at found
      cases found
    · rw [d.find_eq climbs] at found
      cases unseen : Disk.unseen? (join d.root (String.ofList (relative candidate))).toList with
      | some outcome =>
        rw [unseen] at found
        exact Disk.unseen?_ne_found (unseen.trans (congrArg some found))
      | none =>
        rw [unseen] at found
        cases tree : d.tree with
        | error e => simp [tree, bind, Except.bind] at found
        | ok standing =>
          cases standing with
          | none => simp [tree, bind, Except.bind, Node.onward] at found
          | some m => exact missing m tree
  unfold test
  cases found : d.find candidate with
  | error e => nofun
  | ok standing =>
    cases standing with
    | none => nofun
    | some n => exact absurd found (nothing n)

/-- A root with a file and a directory. Beside it stands a file that no candidate may reach. -/
def exServed : DocumentRoot where
  disk := { top := .directory [("srv", .directory
    [("www", .directory [("a", .file ""), ("b", .emptyDirectory)]), ("key", .file "")])] }
  root := "/srv/www"

/-- The same root on a disk with nothing else. -/
def exAlone : DocumentRoot where
  disk := { top := .directory [("srv", .directory
    [("www", .directory [("a", .file ""), ("b", .emptyDirectory)])])] }
  root := "/srv/www"

end DocumentRoot

end Reroute
