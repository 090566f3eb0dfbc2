import TcpStats.Lib.Text

/-!
# Exposition of metrics as text

Families of samples, a line each: the help text and the type of the family, its samples, and an empty line behind them. A
reader that insists on this order gets back from the text of some families just those (`read_text`), so that the text says
all there is to say about them.
-/

namespace Exposition

open CString

/-- A sample: its labels, braces included, and its value. -/
structure Sample where
  labels : CStr
  value : CStr
  deriving DecidableEq

/-- A family. -/
structure Family where
  name : CStr
  help : CStr
  type : CStr
  samples : List Sample
  deriving DecidableEq

/-! ### Writing -/

/-- The line of a sample. -/
def Sample.line (name : CStr) (s : Sample) : CStr := name ++ s.labels ++ chr ' ' :: s.value

/-- The lines of a family. -/
def Family.lines (f : Family) : List CStr :=
  (cstr "# HELP " ++ f.name ++ chr ' ' :: f.help) :: (cstr "# TYPE " ++ f.name ++ chr ' ' :: f.type) ::
    f.samples.map (Sample.line f.name) ++ [[]]

/-- The text of a family. -/
def Family.text (f : Family) : CStr := unlines f.lines

/-! ### Reading -/

/-- What is behind a prefix. -/
def behind (pre s : CStr) : Option CStr := if pre <+: s then some (s.drop pre.length) else none

/-- What has been read: the families, and the name and the help text of one whose type is awaited. -/
structure Progress where
  families : List Family
  awaited : Option (CStr × CStr)

/-- A sample belongs to the last family. -/
def readSample (families : List Family) (line : CStr) : Option (List Family) := do
  let f ← families.getLast?
  let rest ← behind f.name line
  let value ← after (chr ' ') rest
  return families.dropLast ++ [{ f with samples := f.samples ++ [⟨before (chr ' ') rest, value⟩] }]

/-- A line, in its place. -/
def readLine (p : Progress) (line : CStr) : Option Progress :=
  match p.awaited with
  | some (name, help) => do
    let rest ← behind (cstr "# TYPE ") line
    let type ← after (chr ' ') rest
    if before (chr ' ') rest = name then return ⟨p.families ++ [⟨name, help, type, []⟩], none⟩ else none
  | none =>
    if line = [] then return p
    else match behind (cstr "# HELP ") line with
    | some rest => return ⟨p.families, some (before (chr ' ') rest, ← after (chr ' ') rest)⟩
    | none => return ⟨← readSample p.families line, none⟩

/-- The families of a text, if it is one of families. -/
def read (s : CStr) : Option (List Family) := do
  let p ← (s.splitOnP (· = chr '\n')).foldlM readLine ⟨[], none⟩
  if p.awaited = none then return p.families else none

/-! ### What is written is read -/

/-- A sample that can be told from what is around it. -/
structure Sample.Proper (s : Sample) : Prop where
  labels : chr ' ' ∉ s.labels ∧ chr '\n' ∉ s.labels
  value : chr '\n' ∉ s.value

/-- A family that can be told from what is around it. -/
structure Family.Proper (f : Family) : Prop where
  name : chr ' ' ∉ f.name ∧ chr '\n' ∉ f.name
  noComment : f.name ≠ [] ∧ f.name.head? ≠ some (chr '#')
  help : chr '\n' ∉ f.help
  type : chr '\n' ∉ f.type
  samples : ∀ s ∈ f.samples, s.Proper

theorem behind_append (pre s : CStr) : behind pre (pre ++ s) = some s := by
  rw [behind, if_pos (List.prefix_append pre s), List.drop_left]

/-- A character that is in none of its parts is in none of the lines of a family. -/
theorem Family.notMem_lines {c : UInt8} (hc : c ∉ cstr "# HELP " ∧ c ∉ cstr "# TYPE " ∧ c ≠ chr ' ') {f : Family}
    (hname : c ∉ f.name) (hhelp : c ∉ f.help) (htype : c ∉ f.type)
    (hsamples : ∀ s ∈ f.samples, c ∉ s.labels ∧ c ∉ s.value) : ∀ l ∈ f.lines, c ∉ l := by
  intro l hl
  simp only [Family.lines, List.mem_append, List.mem_cons, List.mem_map, List.not_mem_nil, or_false] at hl
  rcases hl with (rfl | rfl | ⟨s, hs, rfl⟩) | rfl
  · simp [hc, hname, hhelp]
  · simp [hc, hname, htype]
  · simp [Sample.line, hc, hname, hsamples s hs]
  · exact List.not_mem_nil

theorem Family.Proper.newline_notMem {f : Family} (h : f.Proper) : ∀ l ∈ f.lines, chr '\n' ∉ l :=
  Family.notMem_lines (by decide) h.name.2 h.help h.type fun s hs => ⟨(h.samples s hs).labels.2, (h.samples s hs).value⟩

theorem readSample_line {s : Sample} (h : s.Proper) (f : Family) (fs : List Family) :
    readSample (fs ++ [f]) (s.line f.name) = some (fs ++ [{ f with samples := f.samples ++ [s] }]) := by
  have hbehind : behind f.name (s.line f.name) = some (s.labels ++ chr ' ' :: s.value) := by
    rw [Sample.line, List.append_assoc]
    exact behind_append ..
  unfold readSample
  rw [List.getLast?_concat, Option.bind_eq_bind, Option.bind_some, hbehind, Option.bind_eq_bind, Option.bind_some,
    after_append h.labels.1, before_append h.labels.1, List.dropLast_concat]
  rfl

/-- A line that does not begin like a comment is one of a sample. -/
theorem readLine_sample {f : Family} (h : f.Proper) {s : Sample} (hs : s ∈ f.samples) (samples : List Sample)
    (fs : List Family) : readLine ⟨fs ++ [{ f with samples }], none⟩ (s.line f.name) =
      some ⟨fs ++ [{ f with samples := samples ++ [s] }], none⟩ := by
  obtain ⟨c, cs, hname⟩ := List.exists_cons_of_ne_nil h.noComment.1
  have hfirst : c ≠ chr '#' := fun hc => h.noComment.2 (by rw [hname, hc, List.head?_cons])
  have hline : s.line f.name = c :: (cs ++ s.labels ++ chr ' ' :: s.value) := by
    rw [Sample.line, hname, List.cons_append, List.cons_append]
  have hhelp : behind (cstr "# HELP ") (s.line f.name) = none := by
    rw [behind, if_neg]
    rintro ⟨rest, hrest⟩
    rw [hline] at hrest
    exact hfirst (List.cons.inj hrest).1.symm
  have hne : s.line f.name ≠ [] := by
    rw [hline]
    exact List.cons_ne_nil _ _
  have hsample := readSample_line (h.samples s hs) { f with samples } fs
  dsimp only at hsample
  rw [readLine]
  simp only [if_neg hne, hhelp, hsample]
  rfl

/-- The lines of a family are read as the family. -/
theorem foldlM_lines {f : Family} (h : f.Proper) (fs : List Family) :
    f.lines.foldlM readLine ⟨fs, none⟩ = some ⟨fs ++ [f], none⟩ := by
  have hsamples : ∀ ss samples : List Sample, ss ⊆ f.samples →
      (ss.map (Sample.line f.name)).foldlM readLine ⟨fs ++ [{ f with samples }], none⟩ =
        some ⟨fs ++ [{ f with samples := samples ++ ss }], none⟩ := by
    intro ss
    induction ss with
    | nil =>
      intro samples _
      rw [List.append_nil]
      rfl
    | cons s ss ih =>
      intro samples hsub
      obtain ⟨hs, hss⟩ := List.cons_subset.mp hsub
      rw [List.map_cons, List.foldlM_cons, readLine_sample h hs, Option.bind_eq_bind, Option.bind_some,
        ih _ hss, List.append_assoc]
      rfl
  have hhelp : readLine ⟨fs, none⟩ (cstr "# HELP " ++ f.name ++ chr ' ' :: f.help) = some ⟨fs, some (f.name, f.help)⟩ := by
    have hne : cstr "# HELP " ++ (f.name ++ chr ' ' :: f.help) ≠ [] := List.cons_ne_nil _ _
    rw [List.append_assoc, readLine]
    simp only [if_neg hne, behind_append, after_append h.name.1, before_append h.name.1]
    rfl
  have htype : readLine ⟨fs, some (f.name, f.help)⟩ (cstr "# TYPE " ++ f.name ++ chr ' ' :: f.type) =
      some ⟨fs ++ [{ f with samples := [] }], none⟩ := by
    rw [List.append_assoc, readLine]
    simp only [behind_append, after_append h.name.1, before_append h.name.1, Option.bind_eq_bind, Option.bind_some, if_true]
    rfl
  have hblank : readLine ⟨fs ++ [f], none⟩ [] = some ⟨fs ++ [f], none⟩ := rfl
  rw [Family.lines, List.foldlM_append, List.foldlM_cons, hhelp, Option.bind_eq_bind, Option.bind_some, List.foldlM_cons,
    htype, Option.bind_eq_bind, Option.bind_some, hsamples _ _ (List.Subset.refl _)]
  exact hblank

/-- The text of some families is read as these families. -/
theorem read_text {fs : List Family} (h : ∀ f ∈ fs, f.Proper) : read (fs.flatMap Family.text) = some fs := by
  have hlines : (fs.flatMap Family.text).splitOnP (· = chr '\n') = fs.flatMap Family.lines ++ [[]] := by
    have hone := splitOnP_unlines (fs.flatMap Family.lines) (fun l hl => by
      obtain ⟨f, hf, hl⟩ := List.mem_flatMap.mp hl
      exact (h f hf).newline_notMem l hl) []
    rw [List.append_nil, List.splitOnP_nil, unlines, List.flatMap_assoc] at hone
    exact hone
  have hfold : ∀ fs done : List Family, (∀ f ∈ fs, f.Proper) →
      (fs.flatMap Family.lines).foldlM readLine ⟨done, none⟩ = some ⟨done ++ fs, none⟩ := by
    intro fs
    induction fs with
    | nil =>
      intro done _
      rw [List.append_nil]
      rfl
    | cons f fs ih =>
      intro done hall
      obtain ⟨hf, hfs⟩ := List.forall_mem_cons.mp hall
      rw [List.flatMap_cons, List.foldlM_append, foldlM_lines hf, Option.bind_eq_bind, Option.bind_some, ih _ hfs,
        List.append_assoc]
      rfl
  rw [read, hlines, List.foldlM_append, hfold fs [] h]
  rfl

end Exposition
