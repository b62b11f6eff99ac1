import XmlSchema.Discovery.Walk
import XmlSchema.Proofs.Files.Following

/-!
# The queue of a walk

What a walk that passes over links can come to are files and directories, by the
names that lead to them from where it starts.  Those that lead to a file are
directories that can be listed, and an entry of a directory is told by the name
that comes next.

The walk goes through the directories level by level, and its queue has those
that are still to come.  None of them lies below another one, so what lies below
each of them is found once; and what lies below a directory is what its entries
stand for and what lies below these.
-/

namespace XmlSchema.Discovery

open FileTree (join maxPath EntryName Listing)

/-- The path of names below a directory. -/
def pathOf (path : String) (names : List String) : String := names.foldl join path

/-- What stands for names below the directory at `here`, which is given by its
path, is no link itself and is reached through no link, all directories above it
can be listed, and its path is not too long to be followed. -/
structure Reaches (t : FileTree) (path : String) (here names : List String) (n : FileNode) :
    Prop where
  found : t.root.get? (here ++ names) = some n
  unlinked : n.isLink = false
  above : ∀ front, front <+: names → front ≠ names → here ++ front ∉ t.closed
  followed : (pathOf path names).utf8ByteSize ≤ maxPath

/-- The names of a document that is looked for. -/
structure Seeks (d : Discovery) (t : FileTree) (path : String) (here names : List String) :
    Prop where
  file : ∃ text, Reaches t path here names (.file text)
  level : ∀ m ∈ d.maxDepth, names.length ≤ m + 1
  accepted : d.accepts ("/".intercalate names) = true

/-- The names of a directory that is gone through. -/
structure Lists (d : Discovery) (t : FileTree) (path : String) (here names : List String) :
    Prop where
  directory : ∃ es, Reaches t path here names (.directory es)
  level : ∀ m ∈ d.maxDepth, names.length ≤ m
  opened : here ++ names ∉ t.closed

section Paths

variable {path name : String} {names : List String}

theorem pathOf_append (path : String) (names more : List String) :
    pathOf path (names ++ more) = pathOf (pathOf path names) more := List.foldl_append ..

theorem utf8ByteSize_join_le (h : '/' ∉ name.toList) (path : String) :
    path.utf8ByteSize + name.utf8ByteSize ≤ (join path name).utf8ByteSize := by
  rcases FileTree.join_cases h path with ⟨rfl, heq⟩ | ⟨before, rfl, heq⟩ | ⟨-, heq⟩
  · rw [heq]
    exact Nat.le_of_eq (Nat.zero_add _)
  · exact Nat.le_of_eq (heq ▸ String.utf8ByteSize_append).symm
  · rw [heq, String.utf8ByteSize_append, String.utf8ByteSize_append]
    omega

/-- A path is no shorter than that of a directory above. -/
theorem utf8ByteSize_pathOf_le (h : ∀ name ∈ names, EntryName name) (path : String) :
    path.utf8ByteSize ≤ (pathOf path names).utf8ByteSize := by
  induction names generalizing path with
  | nil => exact Nat.le_refl _
  | cons name rest ih =>
      have hjoin := utf8ByteSize_join_le (h name List.mem_cons_self).slashless path
      have hrest := ih (fun other hother => h other (List.mem_cons_of_mem _ hother)) (join path name)
      show _ ≤ (pathOf (join path name) rest).utf8ByteSize
      omega

theorem components_pathOf (h : ∀ name ∈ names, EntryName name) (path : String) :
    Path.components (pathOf path names) = Path.components path ++ names := by
  induction names generalizing path with
  | nil => exact (List.append_nil _).symm
  | cons name rest ih =>
      have hname := h name List.mem_cons_self
      show Path.components (pathOf (join path name) rest) = _
      rw [ih (fun other hother => h other (List.mem_cons_of_mem _ hother)),
        FileTree.components_join hname.slashless hname.ne_empty hname.ne_dot, List.append_assoc]
      rfl

end Paths

section Below

variable {t : FileTree} {path name : String} {here names front rest : List String}
  {n : FileNode} {es : List (String × FileNode)}

theorem Reaches.entryName (ht : t.root.Regular) (h : Reaches t path here names n) :
    ∀ name ∈ names, EntryName name := by
  intro name hname
  obtain ⟨front, rest, rfl⟩ := List.append_of_mem hname
  have hfound := h.found
  rw [← List.append_assoc] at hfound
  obtain ⟨es, hes⟩ := FileNode.exists_directory_of_append hfound
  rw [FileNode.get?_append, hes, Option.bind_some, FileNode.get?] at hfound
  obtain ⟨n, hn, -⟩ := Option.bind_eq_some_iff.1 hfound
  have hlisting := ht _ es hes
  exact hlisting.named _ (hlisting.lookup_eq_some_iff.1 hn)

/-- What leads to what is reached is a directory that is reached. -/
theorem Reaches.directory (ht : t.root.Regular)
    (h : Reaches t path here (front ++ name :: rest) n) :
    ∃ es, Reaches t path here front (.directory es) := by
  have hfound := h.found
  rw [← List.append_assoc] at hfound
  obtain ⟨es, hes⟩ := FileNode.exists_directory_of_append hfound
  refine ⟨es, hes, rfl, fun above habove hne => ?_, ?_⟩
  · refine h.above above (habove.trans (List.prefix_append front _)) ?_
    rintro rfl
    have hlength := habove.length_le
    rw [List.length_append, List.length_cons] at hlength
    omega
  · -- its path is the beginning of one that is not too long
    have hnames := h.entryName ht
    have hsize := h.followed
    rw [pathOf_append] at hsize
    exact Nat.le_trans (utf8ByteSize_pathOf_le
      (fun other hother => hnames other (List.mem_append_right _ hother)) _) hsize

/-- An entry of a directory that is reached and can be listed is reached. -/
theorem Reaches.entry (h : Reaches t path here names (.directory es))
    (hopened : here ++ names ∉ t.closed) (hn : es.lookup name = some n)
    (hlink : n.isLink = false) (hsize : (join (pathOf path names) name).utf8ByteSize ≤ maxPath) :
    Reaches t path here (names ++ [name]) n := by
  refine ⟨?_, hlink, fun above habove hne => ?_, ?_⟩
  · rw [← List.append_assoc, FileTree.get?_append_singleton h.found]
    exact hn
  · rcases List.prefix_concat_iff.1 habove with heq | habove
    · exact absurd heq hne
    · by_cases heq : above = names
      · rwa [heq]
      · exact h.above above habove heq
  · rw [pathOf_append]
    exact hsize

/-- What is reached as an entry of a directory is among its entries. -/
theorem Reaches.lookup (h : Reaches t path here (names ++ [name]) n)
    (hes : t.root.get? (here ++ names) = some (.directory es)) : es.lookup name = some n := by
  have hfound := h.found
  rwa [← List.append_assoc, FileTree.get?_append_singleton hes] at hfound

theorem Reaches.followed_join (h : Reaches t path here (names ++ [name]) n) :
    (join (pathOf path names) name).utf8ByteSize ≤ maxPath := by
  have hsize := h.followed
  rwa [pathOf_append] at hsize

end Below

section Step

variable {d : Discovery} {t : FileTree} {path : String} {here : List String} {stop : Stop}
  {es : List (String × FileNode)}

/-- The document that an entry of a directory is. -/
def document? (d : Discovery) (stop : Stop) (e : String × FileNode) : Option Found :=
  match e.2 with
  | .file _ =>
      if (join stop.path e.1).utf8ByteSize ≤ maxPath ∧
          d.accepts ("/".intercalate (stop.names ++ [e.1])) = true then
        some ⟨join stop.path e.1, stop.names ++ [e.1]⟩
      else none
  | _ => none

/-- The directory to go through that an entry of a directory is. -/
def next? (d : Discovery) (stop : Stop) (e : String × FileNode) : Option Stop :=
  match e.2 with
  | .directory _ =>
      if (join stop.path e.1).utf8ByteSize ≤ maxPath ∧
          d.maxDepth.all (stop.depth < ·) = true then
        some ⟨join stop.path e.1, stop.names ++ [e.1], stop.depth + 1⟩
      else none
  | _ => none

theorem names_of_document? {f : Found} {e : String × FileNode} (h : d.document? stop e = some f) :
    f.names = stop.names ++ [e.1] := by
  obtain ⟨name, n⟩ := e
  cases n with
  | link target => cases h
  | directory inner => cases h
  | file text =>
      obtain ⟨-, h⟩ := Option.ite_none_right_eq_some.1 h
      cases h
      rfl

theorem names_of_next? {child : Stop} {e : String × FileNode} (h : d.next? stop e = some child) :
    child.names = stop.names ++ [e.1] := by
  obtain ⟨name, n⟩ := e
  cases n with
  | link target => cases h
  | file text => cases h
  | directory inner =>
      obtain ⟨-, h⟩ := Option.ite_none_right_eq_some.1 h
      cases h
      rfl

/-- An entry adds the document that it is, and its directory comes later. -/
theorem entry_eq (hlinks : d.followLinks = false)
    (hleads : t.canonical stop.path = .ok (here ++ stop.names))
    (hes : t.root.get? (here ++ stop.names) = some (.directory es)) (hlisting : Listing es)
    (tally : Tally) {name : String} {n : FileNode} (hn : (name, n) ∈ es) :
    ∃ skipped errors, d.entry t stop tally name n =
      ({ tally with
          found := tally.found ++ (d.document? stop (name, n)).toList
          skippedLinks := skipped, errors := errors }, d.next? stop (name, n)) := by
  have hname := hlisting.named _ hn
  have hlookup := hlisting.lookup_eq_some_iff.2 hn
  cases n with
  | link target =>
      -- a link is passed over before its path is followed
      refine ⟨tally.skippedLinks + 1, tally.errors, ?_⟩
      simp [entry, FileNode.isLink, hlinks, document?, next?]
  | file text =>
      have hnode := FileTree.node_join hleads hes hname hlookup rfl
      by_cases hsize : (join stop.path name).utf8ByteSize ≤ maxPath
      · rw [if_pos hsize] at hnode
        refine ⟨tally.skippedLinks, tally.errors, ?_⟩
        unfold entry document? next?
        simp only [FileNode.isLink, Bool.false_and, Bool.false_eq_true, if_false, hnode, hsize,
          true_and]
        split <;> simp
      · rw [if_neg hsize] at hnode
        refine ⟨tally.skippedLinks, tally.errors + 1, ?_⟩
        simp [entry, FileNode.isLink, hnode, document?, next?, hsize]
  | directory inner =>
      have hnode := FileTree.node_join hleads hes hname hlookup rfl
      by_cases hsize : (join stop.path name).utf8ByteSize ≤ maxPath
      · rw [if_pos hsize] at hnode
        refine ⟨tally.skippedLinks, tally.errors, ?_⟩
        simp [entry, FileNode.isLink, hnode, document?, next?, hsize]
      · rw [if_neg hsize] at hnode
        refine ⟨tally.skippedLinks, tally.errors + 1, ?_⟩
        simp [entry, FileNode.isLink, hnode, document?, next?, hsize]

/-- The entries of a directory add the documents among them. -/
theorem entries_eq (hlinks : d.followLinks = false)
    (hleads : t.canonical stop.path = .ok (here ++ stop.names))
    (hes : t.root.get? (here ++ stop.names) = some (.directory es)) (hlisting : Listing es)
    (tally : Tally) {part : List (String × FileNode)} (hpart : part ⊆ es) :
    ∃ skipped errors, d.entries t stop tally part =
      ({ tally with
          found := tally.found ++ part.filterMap (d.document? stop)
          skippedLinks := skipped, errors := errors }, part.filterMap (d.next? stop)) := by
  induction part generalizing tally with
  | nil => exact ⟨tally.skippedLinks, tally.errors, by simp [entries]⟩
  | cons e rest ih =>
      obtain ⟨name, n⟩ := e
      obtain ⟨skipped, errors, hentry⟩ :=
        entry_eq hlinks hleads hes hlisting tally (hpart List.mem_cons_self)
      obtain ⟨skipped', errors', hrest⟩ :=
        ih (d.entry t stop tally name n).1 fun e he => hpart (List.mem_cons_of_mem _ he)
      refine ⟨skipped', errors', ?_⟩
      unfold entries
      simp only [hrest]
      rw [hentry]
      cases hdocument : d.document? stop (name, n) <;>
        cases hnext : d.next? stop (name, n) <;> simp [hdocument, hnext]

end Step

/-- A directory that is still to be gone through, if it can be listed. -/
structure Pending (d : Discovery) (t : FileTree) (path : String) (here : List String)
    (stop : Stop) : Prop where
  path_eq : stop.path = pathOf path stop.names
  depth_eq : stop.depth = stop.names.length
  leads : t.canonical stop.path = .ok (here ++ stop.names)
  reached : ∃ es, Reaches t path here stop.names (.directory es)
  level : ∀ m ∈ d.maxDepth, stop.names.length ≤ m

section Queue

variable {d : Discovery} {t : FileTree} {path name : String} {here names : List String}
  {es : List (String × FileNode)} {stop child : Stop} {queue : List Stop} {f : Found}
  {files : List Found} {listed : List (List String)}

/-- Whether names are those of a directory in the queue or lead on from there. -/
def Under (queue : List Stop) (names : List String) : Prop := ∃ stop ∈ queue, stop.names <+: names

/-- No directory in the queue lies below another one or is there twice. -/
def Apart (queue : List Stop) : Prop :=
  queue.Pairwise fun a b => ¬ a.names <+: b.names ∧ ¬ b.names <+: a.names

/-- The documents at the directories in the queue and below them, once each, and
the directories that are gone through. -/
structure Covers (d : Discovery) (t : FileTree) (path : String) (here : List String)
    (queue : List Stop) (files : List Found) (listed : List (List String)) : Prop where
  files_nodup : files.Nodup
  mem_files : ∀ f, f ∈ files ↔
    Under queue f.names ∧ d.Seeks t path here f.names ∧ f.path = pathOf path f.names
  listed_nodup : listed.Nodup
  mem_listed : ∀ names, names ∈ listed ↔ Under queue names ∧ d.Lists t path here names

theorem under_cons : Under (stop :: queue) names ↔ stop.names <+: names ∨ Under queue names := by
  simp only [Under, List.mem_cons, or_and_right, exists_or, exists_eq_left]

theorem under_append {more : List Stop} :
    Under (queue ++ more) names ↔ Under queue names ∨ Under more names := by
  simp only [Under, List.mem_append, or_and_right, exists_or]

/-- A document is not where a directory is. -/
theorem Seeks.ne_names (h : d.Seeks t path here names) (hp : Pending d t path here stop) :
    names ≠ stop.names := by
  rintro rfl
  obtain ⟨text, htext⟩ := h.file
  obtain ⟨inner, hinner⟩ := hp.reached
  cases htext.found.symm.trans hinner.found

/-- Nothing is found at a directory that cannot be listed or below it. -/
theorem Covers.closed (h : Covers d t path here queue files listed)
    (hp : Pending d t path here stop) (hclosed : here ++ stop.names ∈ t.closed) :
    Covers d t path here (stop :: queue) files listed := by
  have hseeks : ∀ names, stop.names <+: names → ¬ d.Seeks t path here names := by
    intro names hbelow hseeks
    obtain ⟨text, htext⟩ := hseeks.file
    exact htext.above _ hbelow (hseeks.ne_names hp).symm hclosed
  have hlists : ∀ names, stop.names <+: names → ¬ d.Lists t path here names := by
    intro names hbelow hlists
    by_cases heq : stop.names = names
    · exact hlists.opened (heq ▸ hclosed)
    · obtain ⟨inner, hinner⟩ := hlists.directory
      exact hinner.above _ hbelow heq hclosed
  refine ⟨h.files_nodup, fun f => ?_, h.listed_nodup, fun names => ?_⟩
  · rw [h.mem_files, under_cons]
    exact and_congr_left fun hf => (or_iff_right fun hbelow => hseeks _ hbelow hf.1).symm
  · rw [h.mem_listed, under_cons]
    exact and_congr_left fun hnames => (or_iff_right fun hbelow => hlists _ hbelow hnames).symm

theorem Pending.reaches (hp : Pending d t path here stop)
    (hes : t.root.get? (here ++ stop.names) = some (.directory es)) :
    Reaches t path here stop.names (.directory es) := by
  obtain ⟨inner, hinner⟩ := hp.reached
  rwa [FileNode.directory.inj (Option.some.inj (hinner.found.symm.trans hes))] at hinner

section Open

variable (ht : t.root.Regular) (hp : Pending d t path here stop)
  (hes : t.root.get? (here ++ stop.names) = some (.directory es))
  (hopened : here ++ stop.names ∉ t.closed)

include ht hp hes

/-- A directory among the entries of a directory can come later. -/
theorem Pending.later {inner : List (String × FileNode)}
    (hinner : Reaches t path here (stop.names ++ [name]) (.directory inner))
    (hlevel : ∀ m ∈ d.maxDepth, stop.names.length + 1 ≤ m) :
    Pending d t path here ⟨join stop.path name, stop.names ++ [name], stop.depth + 1⟩ := by
  have hlookup := hinner.lookup hes
  have hlisting := ht _ es hes
  have hsize := hinner.followed_join
  rw [← hp.path_eq] at hsize
  refine ⟨?_, ?_, ?_, ⟨inner, hinner⟩, fun m hm => ?_⟩
  · rw [pathOf_append, ← hp.path_eq]
    rfl
  · rw [List.length_append, hp.depth_eq]
    rfl
  · have hcanonical := FileTree.canonical_join hp.leads hes
      (hlisting.named _ (hlisting.lookup_eq_some_iff.1 hlookup)) hlookup rfl
    rwa [if_pos hsize, List.append_assoc] at hcanonical
  · rw [List.length_append]
    exact hlevel m hm

include hopened

/-- The documents among the entries of a directory. -/
theorem mem_documents_iff :
    f ∈ es.filterMap (d.document? stop) ↔
      (∃ name, f.names = stop.names ++ [name]) ∧ d.Seeks t path here f.names ∧
        f.path = pathOf path f.names := by
  have hlisting := ht _ es hes
  constructor
  · intro hf
    obtain ⟨⟨name, n⟩, hn, hf⟩ := List.mem_filterMap.1 hf
    cases n with
    | link target => cases hf
    | directory inner => cases hf
    | file text =>
        obtain ⟨⟨hsize, haccepted⟩, hf⟩ := Option.ite_none_right_eq_some.1 hf
        cases hf
        rw [hp.path_eq] at hsize ⊢
        have hentry :=
          (hp.reaches hes).entry hopened (hlisting.lookup_eq_some_iff.2 hn) rfl hsize
        refine ⟨⟨name, rfl⟩, ⟨⟨text, hentry⟩, fun m hm => ?_, haccepted⟩, ?_⟩
        · rw [List.length_append]
          exact Nat.succ_le_succ (hp.level m hm)
        · rw [pathOf_append]
          rfl
  · rintro ⟨⟨name, hnames⟩, hseeks, hpath⟩
    obtain ⟨file, names⟩ := f
    dsimp only at hnames hseeks hpath
    subst hnames hpath
    obtain ⟨text, htext⟩ := hseeks.file
    refine List.mem_filterMap.2 ⟨(name, .file text),
      hlisting.lookup_eq_some_iff.1 (htext.lookup hes), ?_⟩
    have hsize := htext.followed_join
    rw [← hp.path_eq] at hsize
    unfold document?
    dsimp only
    rw [if_pos ⟨hsize, hseeks.accepted⟩, pathOf_append, ← hp.path_eq]
    rfl

/-- The directories among the entries of a directory come later. -/
theorem mem_nexts_iff :
    child ∈ es.filterMap (d.next? stop) ↔
      (∃ name, child.names = stop.names ++ [name]) ∧ Pending d t path here child := by
  have hlisting := ht _ es hes
  constructor
  · intro hchild
    obtain ⟨⟨name, n⟩, hn, hchild⟩ := List.mem_filterMap.1 hchild
    cases n with
    | link target => cases hchild
    | file text => cases hchild
    | directory inner =>
        obtain ⟨⟨hsize, hdepth⟩, hchild⟩ := Option.ite_none_right_eq_some.1 hchild
        cases hchild
        rw [hp.path_eq] at hsize
        have hinner :=
          (hp.reaches hes).entry hopened (hlisting.lookup_eq_some_iff.2 hn) rfl hsize
        refine ⟨⟨name, rfl⟩, hp.later ht hes hinner fun m hm => ?_⟩
        rw [Option.mem_def] at hm
        rw [hm] at hdepth
        rw [← hp.depth_eq]
        exact of_decide_eq_true hdepth
  · rintro ⟨⟨name, hnames⟩, hchild⟩
    obtain ⟨inner, hinner⟩ := hchild.reached
    have hpath := hchild.path_eq
    have hdepth := hchild.depth_eq
    have hlevel := hchild.level
    obtain ⟨file, names, depth⟩ := child
    dsimp only at hnames hpath hdepth hlevel hinner
    subst hnames hpath hdepth
    refine List.mem_filterMap.2 ⟨(name, .directory inner),
      hlisting.lookup_eq_some_iff.1 (hinner.lookup hes), ?_⟩
    have hsize := hinner.followed_join
    rw [← hp.path_eq] at hsize
    have hall : d.maxDepth.all (stop.depth < ·) = true := by
      rw [hp.depth_eq]
      cases hmax : d.maxDepth with
      | none => rfl
      | some m =>
          have hle := hlevel m hmax
          rw [List.length_append] at hle
          exact decide_eq_true hle
    unfold next?
    dsimp only
    rw [if_pos ⟨hsize, hall⟩, pathOf_append, ← hp.path_eq, List.length_append, hp.depth_eq]
    rfl

/-- A directory below is in the queue later or lies below one that is. -/
theorem under_nexts {rest : List String} {n : FileNode}
    (h : Reaches t path here (stop.names ++ name :: rest) n)
    (hdirectory : rest = [] → ∃ inner, n = .directory inner)
    (hlevel : ∀ m ∈ d.maxDepth, stop.names.length + 1 ≤ m) :
    Under (es.filterMap (d.next? stop)) (stop.names ++ name :: rest) := by
  have hinner : ∃ inner, Reaches t path here (stop.names ++ [name]) (.directory inner) := by
    cases rest with
    | nil =>
        obtain ⟨inner, rfl⟩ := hdirectory rfl
        exact ⟨inner, h⟩
    | cons next rest =>
        rw [List.append_cons] at h
        exact h.directory ht
  obtain ⟨inner, hinner⟩ := hinner
  have hchild := hp.later ht hes hinner hlevel
  refine ⟨_, (mem_nexts_iff ht hp hes hopened).2 ⟨⟨name, rfl⟩, hchild⟩, rest, ?_⟩
  rw [List.append_assoc, List.singleton_append]

/-- What is looked for below a directory is among its entries or lies below one of
its directories. -/
theorem Seeks.below (h : d.Seeks t path here names) (hbelow : stop.names <+: names) :
    (∃ name, names = stop.names ++ [name]) ∨ Under (es.filterMap (d.next? stop)) names := by
  have hne := h.ne_names hp
  obtain ⟨rest, rfl⟩ := hbelow
  match rest with
  | [] => exact absurd (List.append_nil _) hne
  | [name] => exact .inl ⟨name, rfl⟩
  | name :: next :: rest =>
      -- the limit on levels leaves room for the directory of the first name
      obtain ⟨text, htext⟩ := h.file
      refine .inr (under_nexts ht hp hes hopened htext nofun fun m hm => ?_)
      have hlevel := h.level m hm
      rw [List.length_append, List.length_cons, List.length_cons] at hlevel
      omega

theorem Lists.below (h : d.Lists t path here names) (hbelow : stop.names <+: names) :
    names = stop.names ∨ Under (es.filterMap (d.next? stop)) names := by
  obtain ⟨rest, rfl⟩ := hbelow
  cases rest with
  | nil => exact .inl (List.append_nil _)
  | cons name rest =>
      obtain ⟨inner, hinner⟩ := h.directory
      refine .inr (under_nexts ht hp hes hopened hinner (fun _ => ⟨inner, rfl⟩) fun m hm => ?_)
      have hlevel := h.level m hm
      rw [List.length_append, List.length_cons] at hlevel
      omega

theorem prefix_of_under_nexts (h : Under (es.filterMap (d.next? stop)) names) : stop.names <+: names := by
  obtain ⟨child, hchild, hbelow⟩ := h
  obtain ⟨⟨name, hname⟩, -⟩ := (mem_nexts_iff ht hp hes hopened).1 hchild
  exact ((List.prefix_append stop.names [name]).trans (hname ▸ List.prefix_rfl)).trans hbelow

/-- What comes later does not lead to a directory that is gone through now. -/
theorem not_under_self (hapart : Apart (stop :: queue)) :
    ¬ Under (queue ++ es.filterMap (d.next? stop)) stop.names := by
  rw [under_append]
  rintro (⟨other, hother, hbelow⟩ | ⟨child, hchild, hbelow⟩)
  · exact ((List.pairwise_cons.1 hapart).1 other hother).2 hbelow
  · obtain ⟨⟨name, hname⟩, -⟩ := (mem_nexts_iff ht hp hes hopened).1 hchild
    have hlength := hbelow.length_le
    rw [hname, List.length_append, List.length_singleton] at hlength
    omega

theorem Apart.step (hapart : Apart (stop :: queue)) :
    Apart (queue ++ es.filterMap (d.next? stop)) := by
  -- the new directories lie side by side below one that is apart from the others
  have hlisting := ht _ es hes
  obtain ⟨hstop, hqueue⟩ := List.pairwise_cons.1 hapart
  refine List.pairwise_append.2 ⟨hqueue, ?_, fun other hother child hchild => ?_⟩
  · have hdistinct := List.pairwise_map.1 hlisting.distinct
    refine List.pairwise_filterMap.2 (hdistinct.imp fun {a b} hne child hchild other hother => ?_)
    rw [names_of_next? hchild, names_of_next? hother, List.prefix_append_right_inj,
      List.prefix_append_right_inj]
    simp [hne, Ne.symm hne]
  · obtain ⟨⟨name, hname⟩, hpending⟩ := (mem_nexts_iff ht hp hes hopened).1 hchild
    rw [hname]
    refine ⟨fun hbelow => ?_, fun hbelow => ?_⟩
    · rcases List.prefix_concat_iff.1 hbelow with heq | hbelow
      · exact (hstop other hother).1 (heq ▸ List.prefix_append _ _)
      · exact (hstop other hother).2 hbelow
    · exact (hstop other hother).1 ((List.prefix_append _ _).trans hbelow)

/-- What is at a directory and below it is among its entries and at what comes
later. -/
theorem Covers.enter (hqueue : ∀ other ∈ queue, Pending d t path here other)
    (hapart : Apart (stop :: queue))
    (h : Covers d t path here (queue ++ es.filterMap (d.next? stop)) files listed) :
    Covers d t path here (stop :: queue) (es.filterMap (d.document? stop) ++ files)
      (stop.names :: listed) := by
  have hlisting := ht _ es hes
  have hlater : ∀ {names}, Under (queue ++ es.filterMap (d.next? stop)) names →
      Under (stop :: queue) names := by
    intro names hnames
    rw [under_append] at hnames
    exact under_cons.2 (hnames.symm.imp_left (prefix_of_under_nexts ht hp hes hopened))
  have hself := not_under_self ht hp hes hopened hapart
  refine ⟨?_, fun f => ?_, ?_, fun names => ?_⟩
  · refine List.nodup_append.2 ⟨?_, h.files_nodup, ?_⟩
    · have hdistinct := List.pairwise_map.1 hlisting.distinct
      refine List.pairwise_filterMap.2 (hdistinct.imp fun {a b} hne f hf other hother heq => ?_)
      have hnames := congrArg Found.names heq
      rw [names_of_document? hf, names_of_document? hother] at hnames
      exact hne (List.cons.inj (List.append_cancel_left hnames)).1
    · -- a directory to come that led to a document of this one would be that
      -- document, or lead to this directory
      rintro f hf _ hlater' rfl
      obtain ⟨⟨name, hname⟩, hseeks, -⟩ :=
        (mem_documents_iff ht hp hes hopened).1 hf
      obtain ⟨other, hother, hbelow⟩ := ((h.mem_files f).1 hlater').1
      have hpending : Pending d t path here other := by
        rcases List.mem_append.1 hother with hother | hother
        · exact hqueue other hother
        · exact ((mem_nexts_iff ht hp hes hopened).1 hother).2
      rw [hname] at hbelow
      rcases List.prefix_concat_iff.1 hbelow with heq | hbelow
      · exact hseeks.ne_names hpending (hname.trans heq.symm)
      · exact hself ⟨other, hother, hbelow⟩
  · rw [List.mem_append, mem_documents_iff ht hp hes hopened, h.mem_files]
    constructor
    · rintro (⟨⟨name, hname⟩, hf⟩ | ⟨hunder, hf⟩)
      · exact ⟨under_cons.2 (.inl (hname ▸ List.prefix_append _ _)), hf⟩
      · exact ⟨hlater hunder, hf⟩
    · rintro ⟨hunder, hf⟩
      rw [under_append]
      rcases under_cons.1 hunder with hbelow | hunder
      · rcases hf.1.below ht hp hes hopened hbelow with hname | hunder
        · exact .inl ⟨hname, hf⟩
        · exact .inr ⟨.inr hunder, hf⟩
      · exact .inr ⟨.inl hunder, hf⟩
  · exact List.nodup_cons.2 ⟨fun hmem => hself ((h.mem_listed _).1 hmem).1, h.listed_nodup⟩
  · rw [List.mem_cons, h.mem_listed]
    constructor
    · rintro (rfl | ⟨hunder, hnames⟩)
      · exact ⟨under_cons.2 (.inl List.prefix_rfl), hp.reached, hp.level, hopened⟩
      · exact ⟨hlater hunder, hnames⟩
    · rintro ⟨hunder, hnames⟩
      rw [under_append]
      rcases under_cons.1 hunder with hbelow | hunder
      · exact (hnames.below ht hp hes hopened hbelow).imp_right fun hunder => ⟨.inr hunder, hnames⟩
      · exact .inr ⟨.inl hunder, hnames⟩

end Open

end Queue

end XmlSchema.Discovery
