import XmlSchema.Proofs.Discovery.Queue

/-!
# What a walk finds

The queue of a walk gets lighter with each directory, so the walk comes to its
end.  It has then found every document that it looks for, once, and it gives
their paths in order.
-/

namespace XmlSchema.Discovery

open FileTree (join maxPath EntryName Listing)

section Order

variable {a b c : List String}

theorem namesLe_total (a b : List String) : (namesLe a b || namesLe b a) = true := by
  induction a generalizing b with
  | nil => rfl
  | cons x xs ih =>
      cases b with
      | nil => rfl
      | cons y ys =>
          by_cases hxy : x = y
          · subst hxy
            simpa [namesLe] using ih ys
          · simp only [namesLe, if_neg hxy, if_neg (Ne.symm hxy), Bool.or_eq_true, decide_eq_true_eq]
            by_contra hnot
            rw [not_or, String.not_lt, String.not_lt] at hnot
            exact hxy (String.le_antisymm hnot.2 hnot.1)

theorem namesLe_trans (a b c : List String) (hab : namesLe a b = true) (hbc : namesLe b c = true) :
    namesLe a c = true := by
  induction a generalizing b c with
  | nil => rfl
  | cons x xs ih =>
      cases b with
      | nil => cases hab
      | cons y ys =>
          cases c with
          | nil => cases hbc
          | cons z zs =>
              unfold namesLe at hab hbc ⊢
              split at hab
              · rename_i hxy
                subst hxy
                split at hbc
                · rename_i hxz
                  rw [if_pos hxz]
                  exact ih ys zs hab hbc
                · rename_i hxz
                  rwa [if_neg hxz]
              · rename_i hxy
                have hlt := of_decide_eq_true hab
                split at hbc
                · rename_i hyz
                  subst hyz
                  rwa [if_neg hxy]
                · have hlt' := String.lt_trans hlt (of_decide_eq_true hbc)
                  have hxz : x ≠ z := fun heq => String.lt_irrefl x (heq ▸ hlt')
                  rw [if_neg hxz]
                  exact decide_eq_true hlt'

theorem namesLe_append (front a b : List String) :
    namesLe (front ++ a) (front ++ b) = namesLe a b := by
  induction front with
  | nil => rfl
  | cons name rest ih => exact (if_pos rfl).trans ih

end Order

section Run

variable {d : Discovery} {t : FileTree} {path : String} {here names : List String}
  {es : List (String × FileNode)} {stop : Stop} {queue : List Stop}

/-- The number of nodes at a place and below it. -/
def weightAt (t : FileTree) (place : List String) : Nat :=
  ((t.root.get? place).map FileNode.size).getD 0

/-- The number of nodes at the directories in a queue and below them. -/
def weight (t : FileTree) (here : List String) : List Stop → Nat
  | [] => 0
  | stop :: queue => weightAt t (here ++ stop.names) + weight t here queue

theorem size_le_sizeEntries {e : String × FileNode} (he : e ∈ es) :
    e.2.size ≤ FileNode.sizeEntries es := by
  induction es with
  | nil => cases he
  | cons e' rest ih =>
      rw [FileNode.sizeEntries]
      rcases List.mem_cons.1 he with rfl | he
      · exact Nat.le_add_right _ _
      · exact Nat.le_trans (ih he) (Nat.le_add_left _ _)

theorem size_le_of_get? {n m : FileNode} (h : n.get? names = some m) : m.size ≤ n.size := by
  induction names generalizing n with
  | nil =>
      cases h
      exact Nat.le_refl _
  | cons name rest ih =>
      cases n with
      | file text => cases h
      | link target => cases h
      | directory es =>
          obtain ⟨child, hchild, hm⟩ := Option.bind_eq_some_iff.1 h
          obtain ⟨front, back, rfl, -⟩ := List.lookup_eq_some_iff.1 hchild
          have hmem : (name, child) ∈ front ++ (name, child) :: back := by simp
          have hsize : child.size ≤ _ := size_le_sizeEntries hmem
          have hrest := ih hm
          rw [FileNode.size]
          omega

/-- What comes later weighs less than what it is in. -/
theorem weight_nexts_le (hes : t.root.get? (here ++ stop.names) = some (.directory es))
    (hlisting : Listing es) :
    weight t here (es.filterMap (d.next? stop)) ≤ FileNode.sizeEntries es := by
  have hpart : ∀ part, part ⊆ es →
      weight t here (part.filterMap (d.next? stop)) ≤ FileNode.sizeEntries part := by
    intro part hpart
    induction part with
    | nil => exact Nat.le_refl _
    | cons e rest ih =>
        obtain ⟨name, n⟩ := e
        have hrest := ih fun other hother => hpart (List.mem_cons_of_mem _ hother)
        rw [FileNode.sizeEntries, List.filterMap_cons]
        cases hnext : d.next? stop (name, n) with
        | none => exact Nat.le_trans hrest (Nat.le_add_left _ _)
        | some child =>
            have hweight : weightAt t (here ++ child.names) = n.size := by
              unfold weightAt
              rw [names_of_next? hnext, ← List.append_assoc, FileTree.get?_append_singleton hes,
                hlisting.lookup_eq_some_iff.2 (hpart List.mem_cons_self)]
              rfl
            rw [weight, hweight]
            exact Nat.add_le_add_left hrest _
  exact hpart es (List.Subset.refl _)

theorem weight_cons (hes : t.root.get? (here ++ stop.names) = some (.directory es)) :
    weight t here (stop :: queue) = FileNode.sizeEntries es + 1 + weight t here queue := by
  rw [weight, weightAt, hes]
  rfl

theorem weight_append (t : FileTree) (here : List String) (queue more : List Stop) :
    weight t here (queue ++ more) = weight t here queue + weight t here more := by
  induction queue with
  | nil => exact (Nat.zero_add _).symm
  | cons stop queue ih => rw [List.cons_append, weight, weight, ih, Nat.add_assoc]

theorem covers_nil : Covers d t path here [] [] [] := by
  refine ⟨.nil, fun f => ?_, .nil, fun names => ?_⟩ <;> simp [Under]

theorem list_eq (hleads : t.canonical stop.path = .ok (here ++ stop.names))
    (hes : t.root.get? (here ++ stop.names) = some (.directory es)) :
    t.list stop.path =
      if here ++ stop.names ∈ t.closed then .error .permissionDenied else .ok es := by
  unfold FileTree.list
  rw [hleads]
  simp only [bind, Except.bind, hes, List.contains_iff_mem]
  rfl

/-- Going through a queue adds the documents at its directories and below them, and
counts the directories that are gone through.  A unit of fuel for each node below
is enough. -/
theorem through_covers (hlinks : d.followLinks = false) (ht : t.root.Regular) (fuel : Nat)
    (hqueue : ∀ stop ∈ queue, Pending d t path here stop) (hapart : Apart queue)
    (hfuel : weight t here queue ≤ fuel) (tally : Tally) :
    ∃ files listed, Covers d t path here queue files listed ∧
      (d.through t fuel queue tally).found = tally.found ++ files ∧
      (d.through t fuel queue tally).directories = tally.directories + listed.length := by
  induction fuel generalizing queue tally with
  | zero =>
      cases queue with
      | nil => exact ⟨[], [], covers_nil, (List.append_nil _).symm, rfl⟩
      | cons stop queue =>
          -- a directory has some weight, so there is fuel for it
          obtain ⟨es, hes⟩ := (hqueue stop List.mem_cons_self).reached
          rw [weight_cons hes.found] at hfuel
          omega
  | succ fuel ih =>
      cases queue with
      | nil => exact ⟨[], [], covers_nil, (List.append_nil _).symm, rfl⟩
      | cons stop queue =>
          have hp := hqueue stop List.mem_cons_self
          have hrest := fun other hother => hqueue other (List.mem_cons_of_mem _ hother)
          obtain ⟨es, hreached⟩ := hp.reached
          have hes := hreached.found
          have hlisting := ht _ es hes
          rw [weight_cons hes] at hfuel
          unfold through
          simp only [hp.leads, hlinks, Bool.false_and, Bool.false_eq_true, if_false,
            list_eq hp.leads hes]
          by_cases hclosed : here ++ stop.names ∈ t.closed
          · -- an error is counted, and the rest of the queue is lighter
            simp only [if_pos hclosed]
            obtain ⟨files, listed, hcovers, hfound, hcount⟩ :=
              ih hrest (List.pairwise_cons.1 hapart).2 (by omega) _
            exact ⟨files, listed, hcovers.closed hp hclosed, hfound, hcount⟩
          · -- what is in the directory comes last, and weighs less than the directory
            simp only [if_neg hclosed]
            obtain ⟨skipped, errors, hentries⟩ :=
              entries_eq hlinks hp.leads hes hlisting _ (List.Subset.refl es)
            rw [hentries]
            have hlater : ∀ other ∈ queue ++ es.filterMap (d.next? stop),
                Pending d t path here other := by
              intro other hother
              rcases List.mem_append.1 hother with hother | hother
              · exact hrest other hother
              · exact ((mem_nexts_iff ht hp hes hclosed).1 hother).2
            have hnexts : weight t here (es.filterMap (d.next? stop)) ≤ FileNode.sizeEntries es :=
              weight_nexts_le hes hlisting
            have hless : weight t here (queue ++ es.filterMap (d.next? stop)) ≤ fuel := by
              rw [weight_append]
              omega
            obtain ⟨files, listed, hcovers, hfound, hcount⟩ :=
              ih hlater (Apart.step ht hp hes hclosed hapart) hless _
            refine ⟨_, _, hcovers.enter ht hp hes hclosed hrest hapart, ?_, ?_⟩
            · rw [hfound, List.append_assoc]
            · rw [hcount, List.length_cons]
              show tally.directories + 1 + listed.length = _
              omega

end Run

section Result

variable {d : Discovery} {t : FileTree} {path : String} {here : List String}
  {es : List (String × FileNode)} {found : List Found}

theorem node_eq (hpath : t.canonical path = .ok here)
    (hhere : t.root.get? here = some (.directory es)) : t.node path = .ok (.directory es) := by
  unfold FileTree.node
  rw [hpath]
  dsimp only
  rw [hhere]

/-- The directory that a walk starts from is the first to be gone through. -/
theorem pending_start (d : Discovery) (hpath : t.canonical path = .ok here)
    (hhere : t.root.get? here = some (.directory es)) :
    Pending d t path here ⟨path, [], 0⟩ := by
  obtain ⟨⟨⟩, hchecked, -⟩ := Attempt.bind_eq_ok_iff.1 hpath
  have hplace : here ++ [] = here := List.append_nil here
  refine ⟨rfl, rfl, hplace.symm ▸ hpath, ⟨es, hplace.symm ▸ hhere, rfl, ?_, ?_⟩,
    fun _ _ => Nat.zero_le _⟩
  · exact fun front hfront hne => absurd (List.prefix_nil.1 hfront) hne
  · exact FileTree.size_le_of_checkPath hchecked

/-- Documents that are told apart by their names are told apart by their paths. -/
theorem nodup_paths (ht : t.root.Regular) (hnodup : found.Nodup)
    (hseeks : ∀ f ∈ found, d.Seeks t path here f.names ∧ f.path = pathOf path f.names) :
    (found.map Found.path).Nodup := by
  refine List.pairwise_map.2 (hnodup.imp_of_mem fun {f g} hf hg hne heq => hne ?_)
  obtain ⟨⟨⟨text, htext⟩, -, -⟩, hpath⟩ := hseeks f hf
  obtain ⟨⟨⟨text', htext'⟩, -, -⟩, hpath'⟩ := hseeks g hg
  have hcomponents := congrArg Path.components heq
  rw [hpath, hpath', components_pathOf (htext.entryName ht),
    components_pathOf (htext'.entryName ht)] at hcomponents
  have hnames := List.append_cancel_left hcomponents
  obtain ⟨file, names⟩ := f
  obtain ⟨file', names'⟩ := g
  cases heq
  cases hnames
  rfl

/-- Sorted by names is sorted by paths. -/
theorem pairwise_paths (ht : t.root.Regular)
    (hseeks : ∀ f ∈ found, d.Seeks t path here f.names ∧ f.path = pathOf path f.names)
    (hsorted : found.Pairwise fun a b => namesLe a.names b.names = true) :
    (found.map Found.path).Pairwise fun a b =>
      namesLe (Path.components a) (Path.components b) = true := by
  refine List.pairwise_map.2 (hsorted.imp_of_mem fun {a b} ha hb hle => ?_)
  obtain ⟨⟨⟨text, htext⟩, -, -⟩, hpath⟩ := hseeks a ha
  obtain ⟨⟨⟨text', htext'⟩, -, -⟩, hpath'⟩ := hseeks b hb
  rwa [hpath, hpath', components_pathOf (htext.entryName ht),
    components_pathOf (htext'.entryName ht), namesLe_append]

/-- Entries in no order, with documents on three levels, a link and a directory that
cannot be listed. -/
def shelved : List (String × FileNode) :=
  [("z.xsd", .file ""), ("shut", .directory [("c.xsd", .file "")]), ("link.xsd", .link "z.xsd"),
    ("shelf", .directory [("box", .directory [("deep.xsd", .file "")]), ("B.XSD", .file "")]),
    ("a.xsd", .file ""), ("note.txt", .file "")]

def shelves : FileTree where
  root := .directory shelved
  closed := [["shut"]]

theorem regular_shelves : shelves.root.Regular := by
  have hbox : (FileNode.directory [("deep.xsd", .file "")]).Regular :=
    FileNode.regular_directory ⟨by decide +kernel, by decide⟩
      (by simpa using FileNode.regular_file "")
  have hshut : (FileNode.directory [("c.xsd", .file "")]).Regular :=
    FileNode.regular_directory ⟨by decide +kernel, by decide⟩
      (by simpa using FileNode.regular_file "")
  have hshelf : (FileNode.directory
      [("box", .directory [("deep.xsd", .file "")]), ("B.XSD", .file "")]).Regular :=
    FileNode.regular_directory ⟨by decide +kernel, by decide⟩
      (by simpa using ⟨hbox, FileNode.regular_file ""⟩)
  refine FileNode.regular_directory ⟨by decide +kernel, by decide⟩ ?_
  simpa [shelved] using
    ⟨FileNode.regular_file "", hshut, FileNode.regular_link "z.xsd", hshelf, FileNode.regular_file ""⟩

/-- The current directory with separators behind it. -/
def trailing (k : Nat) : String := "." ++ String.ofList (List.replicate k '/')

theorem trailing_succ (k : Nat) : trailing (k + 1) = trailing k ++ "/" := by
  unfold trailing
  rw [List.replicate_succ', String.ofList_append, ← String.append_assoc]

theorem split_trailing (k : Nat) : FileTree.split (trailing k) = "." :: List.replicate k "" := by
  induction k with
  | zero => decide
  | succ k ih =>
      rw [trailing_succ, FileTree.split_append_slash, ih, List.replicate_succ']
      rfl

theorem utf8ByteSize_trailing (k : Nat) : (trailing k).utf8ByteSize = k + 1 := by
  induction k with
  | zero => decide
  | succ k ih =>
      rw [trailing_succ, String.utf8ByteSize_append, ih]
      rfl

theorem canonical_trailing (hcurrent : t.root.get? t.current = some (.directory es)) {k : Nat}
    (hk : k < maxPath) : t.canonical (trailing k) = .ok t.current := by
  have hchecked : FileTree.checkPath (trailing k) = .ok () := by
    have hnul : '\x00' ∉ (trailing k).toList := by simp [trailing]
    have hne : trailing k ≠ "" := by
      intro hempty
      have hsize := utf8ByteSize_trailing k
      rw [hempty] at hsize
      cases hsize
    rw [FileTree.checkPath_eq hnul hne, utf8ByteSize_trailing, if_pos (Nat.succ_le_of_lt hk)]
  have horigin : t.origin (trailing k) = t.current := by
    refine if_neg ?_
    unfold trailing
    rw [FileTree.isAbsolute_append (by decide)]
    decide
  unfold FileTree.canonical
  rw [hchecked, horigin, split_trailing]
  refine FileTree.walk_stay hcurrent (fun part hpart => ?_) _
  rcases List.mem_cons.1 hpart with rfl | hpart
  · exact .inr rfl
  · exact .inl (List.eq_of_mem_replicate hpart)

/-- A directory with one document. -/
def lone : FileTree := { root := .directory [("A.XSD", .file "")] }

theorem regular_lone : lone.root.Regular :=
  FileNode.regular_directory ⟨by decide +kernel, by decide⟩
    (by simpa using FileNode.regular_file "")

theorem walk_trailing {k : Nat} (hk : k < maxPath) (hlong : maxPath < k + 6) :
    ({} : Discovery).walk lone (trailing k) =
      .ok ([], { files := 0, directories := 1, errors := 1 }) := by
  have hroot : lone.root.get? [] = some (.directory [("A.XSD", .file "")]) := rfl
  have hname : EntryName "A.XSD" := by decide +kernel
  have hcanonical : lone.canonical (trailing k) = .ok [] := canonical_trailing hroot hk
  have hnode : lone.node (join (trailing k) "A.XSD") = .error .nameTooLong := by
    have hjoin : (trailing k).utf8ByteSize + 5 ≤ (join (trailing k) "A.XSD").utf8ByteSize :=
      utf8ByteSize_join_le hname.slashless (trailing k)
    rw [utf8ByteSize_trailing] at hjoin
    rw [FileTree.node_join hcanonical hroot hname rfl rfl, if_neg (by omega)]
  have hlist : lone.list (trailing k) = .ok [("A.XSD", .file "")] := by
    unfold FileTree.list
    rw [hcanonical]
    rfl
  have hthrough : ({} : Discovery).through lone (lone.size + 2) [⟨trailing k, [], 0⟩] {} =
      { directories := 1, errors := 1, visited := [[]] } := by
    show ({} : Discovery).through lone 4 [⟨trailing k, [], 0⟩] {} = _
    simp [through, hcanonical, hlist, entries, entry, FileNode.isLink, hnode]
  unfold walk
  rw [node_eq hcanonical hroot]
  simp [hlist, hthrough]

end Result

end XmlSchema.Discovery
