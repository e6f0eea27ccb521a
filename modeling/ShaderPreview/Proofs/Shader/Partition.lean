import Mathlib.Data.List.Induction
import ShaderPreview.Proofs.Shader.Classification

/-!
# Entry points by stage

Classification partitions the declared entry points by stage and keeps their order, so kind, warning
and drawn entry points can be stated in terms of the declarations (SPEC_FULL.md, section 8).
-/

namespace ShaderPreview

/-- Some entry point is of the stage. -/
def HasStage (stage : ShaderStage) (entries : List EntryPoint) : Prop :=
  ∃ entry ∈ entries, entry.stage = stage

/-- The entry point is the first of its stage. -/
def IsFirst (stage : ShaderStage) (entry : EntryPoint) (entries : List EntryPoint) : Prop :=
  ∃ earlier later, entries = earlier ++ entry :: later ∧ entry.stage = stage ∧
    ∀ other ∈ earlier, other.stage ≠ stage

theorem IsFirst.hasStage {stage : ShaderStage} {entry : EntryPoint} {entries : List EntryPoint}
    (h : IsFirst stage entry entries) : HasStage stage entries := by
  obtain ⟨earlier, later, rfl, hstage, _⟩ := h
  exact ⟨entry, List.mem_append_right _ List.mem_cons_self, hstage⟩

namespace EntryPoints

def under (sorted : EntryPoints) : ShaderStage → List EntryPoint
  | .vertex => sorted.vertex
  | .fragment => sorted.fragment
  | .compute => sorted.compute

/-- Adds an entry point at the end of its stage. -/
def push (sorted : EntryPoints) (entry : EntryPoint) : EntryPoints :=
  match entry.stage with
  | .vertex => { sorted with vertex := sorted.vertex ++ [entry] }
  | .fragment => { sorted with fragment := sorted.fragment ++ [entry] }
  | .compute => { sorted with compute := sorted.compute ++ [entry] }

/-- The entry points of each stage, in the order of the list; all stages together are a permutation
of the list. -/
structure Sorts (sorted : EntryPoints) (entries : List EntryPoint) : Prop where
  ordered (stage : ShaderStage) : (sorted.under stage).Sublist entries
  labelled {stage : ShaderStage} {entry : EntryPoint} :
    entry ∈ sorted.under stage → entry.stage = stage
  whole : (sorted.vertex ++ sorted.fragment ++ sorted.compute).Perm entries

theorem under_push (sorted : EntryPoints) (entry : EntryPoint) (stage : ShaderStage) :
    (sorted.push entry).under stage =
      if entry.stage = stage then sorted.under stage ++ [entry] else sorted.under stage := by
  unfold push
  cases entry.stage <;> cases stage <;> rfl

theorem Sorts.push {sorted : EntryPoints} {entries : List EntryPoint} (h : sorted.Sorts entries)
    (entry : EntryPoint) : (sorted.push entry).Sorts (entries ++ [entry]) where
  ordered stage := by
    rw [under_push]
    split
    · exact (h.ordered stage).append_right [entry]
    · exact (h.ordered stage).trans (List.sublist_append_left entries [entry])
  labelled {stage other} hother := by
    rw [under_push] at hother
    split at hother
    · rename_i hstage
      obtain hbefore | hlast := List.mem_append.1 hother
      · exact h.labelled hbefore
      · exact List.mem_singleton.1 hlast ▸ hstage
    · exact h.labelled hother
  whole := by
    have hlast (first second : List EntryPoint) (hwhole : (first ++ second).Perm entries) :
        (first ++ entry :: second).Perm (entries ++ [entry]) :=
      List.perm_middle.trans
        ((hwhole.cons entry).trans (List.perm_append_singleton entry entries).symm)
    have hwhole := h.whole
    unfold EntryPoints.push
    split
    · rw [List.append_assoc] at hwhole
      simpa only [List.append_assoc, List.cons_append, List.nil_append] using hlast _ _ hwhole
    · simpa only [List.append_assoc, List.cons_append, List.nil_append] using hlast _ _ hwhole
    · rw [← List.append_nil (sorted.vertex ++ sorted.fragment ++ sorted.compute)] at hwhole
      simpa only [List.append_assoc] using hlast _ _ hwhole

theorem of_concat (entries : List EntryPoint) (entry : EntryPoint) :
    EntryPoints.of (entries ++ [entry]) = (EntryPoints.of entries).push entry := by
  obtain ⟨name, stage⟩ := entry
  cases stage <;> simp [push, EntryPoints.of, ofStage]

theorem sorts_of (entries : List EntryPoint) : (EntryPoints.of entries).Sorts entries := by
  induction entries using List.reverseRecOn with
  | nil =>
    refine ⟨fun stage => ?_, fun hentry => ?_, List.Perm.refl []⟩
    · cases stage <;> exact List.Sublist.refl []
    · rename_i stage entry
      cases stage <;> cases hentry
  | append_singleton entries entry ih =>
    rw [of_concat]
    exact ih.push entry

theorem under_of (stage : ShaderStage) (entries : List EntryPoint) :
    (EntryPoints.of entries).under stage = ofStage stage entries := by
  cases stage <;> rfl

theorem under_eq_nil {stage : ShaderStage} {entries : List EntryPoint} :
    (EntryPoints.of entries).under stage = [] ↔ ¬ HasStage stage entries := by
  rw [under_of, ofStage, List.filter_eq_nil_iff, HasStage]
  simp

theorem isFirst_of_under {stage : ShaderStage} {entry : EntryPoint}
    {entries others : List EntryPoint}
    (h : (EntryPoints.of entries).under stage = entry :: others) :
    IsFirst stage entry entries := by
  rw [under_of, ofStage] at h
  have hfind : entries.find? (·.stage == stage) = some entry := by
    rw [← List.head?_filter, h, List.head?_cons]
  obtain ⟨hstage, earlier, later, hentries, hearlier⟩ := List.find?_eq_some_iff_append.1 hfind
  refine ⟨earlier, later, hentries, eq_of_beq hstage, fun other hother => ?_⟩
  simpa using hearlier other hother

end EntryPoints

/-! ### What is told of the entry points -/

/-- The classification follows the entry points. The kind depends on whether there are fragment and
vertex entry points, compute entry points give a warning next to a fragment entry point, and the
first entry point of each stage is used. -/
structure Classification.Reflects (classification : Classification) (entries : List EntryPoint) :
    Prop where
  sorted : classification.entryPoints.Sorts entries
  invalid : classification.kind = .invalid ↔ ¬ HasStage .fragment entries
  own : classification.kind = .vertexFragment ↔
    HasStage .fragment entries ∧ HasStage .vertex entries
  supplied : classification.kind = .fragmentOnly ↔
    HasStage .fragment entries ∧ ¬ HasStage .vertex entries
  noted : computeIgnored ∈ classification.warnings ↔
    classification.isRenderable = true ∧ HasStage .compute entries
  drawn : classification.isRenderable = true → ∃ fragment, IsFirst .fragment fragment entries ∧
    ((classification.kind = .fragmentOnly ∧
        classification.entryNames? = some (fullscreenEntry, fragment.name)) ∨
      ∃ vertex, IsFirst .vertex vertex entries ∧ classification.kind = .vertexFragment ∧
        classification.entryNames? = some (vertex.name, fragment.name))

namespace Classification

open EntryPoints

theorem noted_iff (entries : List EntryPoint) :
    (computeIgnored ∈ if (EntryPoints.of entries).compute.isEmpty then [] else [computeIgnored]) ↔
      HasStage .compute entries := by
  rw [← not_iff_not, ← under_eq_nil, under]
  cases (EntryPoints.of entries).compute <;> simp

theorem reflects_ofEntryPoints (entries : List EntryPoint) :
    (ofEntryPoints entries).Reflects entries := by
  cases hfragment : (EntryPoints.of entries).fragment with
  | nil =>
    have hnone : ¬ HasStage .fragment entries := under_eq_nil.1 hfragment
    have hform : ofEntryPoints entries =
        ⟨.invalid, EntryPoints.of entries, [], some fragmentRequired⟩ := by
      simp only [ofEntryPoints, hfragment, List.isEmpty_nil, if_true]
    rw [hform]
    exact
      { sorted := sorts_of entries
        invalid := iff_of_true rfl hnone
        own := iff_of_false ShaderKind.noConfusion fun h => hnone h.1
        supplied := iff_of_false ShaderKind.noConfusion fun h => hnone h.1
        noted := iff_of_false List.not_mem_nil fun h => Bool.false_ne_true h.1
        drawn := fun h => absurd h Bool.false_ne_true }
  | cons fragment fragments =>
    have hfirst : IsFirst .fragment fragment entries := isFirst_of_under hfragment
    have hsome : HasStage .fragment entries := hfirst.hasStage
    cases hvertex : (EntryPoints.of entries).vertex with
    | nil =>
      have hnone : ¬ HasStage .vertex entries := under_eq_nil.1 hvertex
      have hform : ofEntryPoints entries = ⟨.fragmentOnly, EntryPoints.of entries,
          if (EntryPoints.of entries).compute.isEmpty then [] else [computeIgnored], none⟩ := by
        simp only [ofEntryPoints, hfragment, hvertex, List.isEmpty_cons, List.isEmpty_nil,
          Bool.false_eq_true, if_false, if_true]
      rw [hform]
      exact
        { sorted := sorts_of entries
          invalid := iff_of_false ShaderKind.noConfusion (not_not.2 hsome)
          own := iff_of_false ShaderKind.noConfusion fun h => hnone h.2
          supplied := iff_of_true rfl ⟨hsome, hnone⟩
          noted := (noted_iff entries).trans (and_iff_right rfl).symm
          drawn := fun _ => ⟨fragment, hfirst, .inl ⟨rfl, by simp only [entryNames?, hfragment]⟩⟩ }
    | cons vertex vertices =>
      have hfirstOwn : IsFirst .vertex vertex entries := isFirst_of_under hvertex
      have hown : HasStage .vertex entries := hfirstOwn.hasStage
      have hform : ofEntryPoints entries = ⟨.vertexFragment, EntryPoints.of entries,
          if (EntryPoints.of entries).compute.isEmpty then [] else [computeIgnored], none⟩ := by
        simp only [ofEntryPoints, hfragment, hvertex, List.isEmpty_cons, Bool.false_eq_true,
          if_false]
      rw [hform]
      exact
        { sorted := sorts_of entries
          invalid := iff_of_false ShaderKind.noConfusion (not_not.2 hsome)
          own := iff_of_true rfl ⟨hsome, hown⟩
          supplied := iff_of_false ShaderKind.noConfusion fun h => h.2 hown
          noted := (noted_iff entries).trans (and_iff_right rfl).symm
          drawn := fun _ => ⟨fragment, hfirst, .inr ⟨vertex, hfirstOwn, rfl,
            by simp only [entryNames?, hfragment, hvertex]⟩⟩ }

theorem ofEntryPoints_diagnostic (entries : List EntryPoint) :
    (ofEntryPoints entries).diagnostic.isSome = !(ofEntryPoints entries).isRenderable := by
  cases hfragment : (EntryPoints.of entries).fragment.isEmpty with
  | true =>
    simp only [ofEntryPoints, hfragment, if_true]
    rfl
  | false =>
    simp only [ofEntryPoints, hfragment, Bool.false_eq_true, if_false]
    cases (EntryPoints.of entries).vertex.isEmpty <;> rfl

end Classification

/-- For every front end the classification reflects the entry points of the composed source. A
source that does not parse has none. There is a rejection message exactly if the source cannot be
rendered. -/
theorem classify_faithful (frontEnd : FrontEnd) (source : String) :
    let text := (compose source (needsTextures source)).text
    let classification := frontEnd.classify source
    (∀ parsed, frontEnd.parse text = .ok parsed →
      classification.Reflects (frontEnd.entryPoints parsed)) ∧
    (∀ complaint, frontEnd.parse text = .error complaint →
      classification.kind = .parseError ∧ classification.warnings = [] ∧
        ∀ stage, classification.entryPoints.under stage = []) ∧
    (classification.diagnostic.isSome = true ↔ classification.isRenderable = false) := by
  intro text classification
  refine ⟨fun parsed hparsed => ?_, fun complaint herror => ?_, ?_⟩
  · have hclassified : classification = .ofEntryPoints (frontEnd.entryPoints parsed) :=
      classify_of_ok hparsed
    rw [hclassified]
    exact Classification.reflects_ofEntryPoints _
  · have hclassified : classification =
        .unparsed (compose source (needsTextures source)) complaint := classify_of_error herror
    rw [hclassified]
    exact ⟨rfl, rfl, fun stage => by cases stage <;> rfl⟩
  · cases hparse : frontEnd.parse text with
    | error complaint =>
      have hclassified : classification =
          .unparsed (compose source (needsTextures source)) complaint := classify_of_error hparse
      rw [hclassified]
      exact iff_of_true rfl rfl
    | ok parsed =>
      have hclassified : classification = .ofEntryPoints (frontEnd.entryPoints parsed) :=
        classify_of_ok hparse
      rw [hclassified, Classification.ofEntryPoints_diagnostic, Bool.not_eq_true']

/-- Two fragment stages, a vertex stage between them and a compute stage before. -/
theorem classify_faithful_mixed :
    let entries : List EntryPoint := [⟨"simulate", .compute⟩, ⟨"shade", .fragment⟩,
      ⟨"place", .vertex⟩, ⟨"shadow", .fragment⟩]
    let classification := (FrontEnd.lenient entries).classify ""
    classification.kind = .vertexFragment ∧ computeIgnored ∈ classification.warnings ∧
      classification.diagnostic.isSome = false ∧
      ∃ fragment, IsFirst .fragment fragment entries ∧
        ∃ name, classification.entryNames? = some (name, fragment.name) := by
  intro entries classification
  obtain ⟨hreflects, _, hdiagnostic⟩ := classify_faithful (FrontEnd.lenient entries) ""
  have hreflected : classification.Reflects entries := hreflects () rfl
  have hfragment : HasStage .fragment entries := ⟨⟨"shade", .fragment⟩, by decide, rfl⟩
  have hvertex : HasStage .vertex entries := ⟨⟨"place", .vertex⟩, by decide, rfl⟩
  have hcompute : HasStage .compute entries := ⟨⟨"simulate", .compute⟩, by decide, rfl⟩
  have hkind : classification.kind = .vertexFragment := hreflected.own.2 ⟨hfragment, hvertex⟩
  have hrenderable : classification.isRenderable = true := by
    rw [Classification.isRenderable, hkind]
    rfl
  have hsilent : classification.diagnostic.isSome = false := by
    rw [← Bool.not_eq_true, hdiagnostic, hrenderable]
    decide
  obtain ⟨fragment, hfirst, hdrawn⟩ := hreflected.drawn hrenderable
  refine ⟨hkind, hreflected.noted.2 ⟨hrenderable, hcompute⟩, hsilent, fragment, hfirst, ?_⟩
  obtain ⟨_, hnames⟩ | ⟨vertex, _, _, hnames⟩ := hdrawn
  · exact ⟨_, hnames⟩
  · exact ⟨_, hnames⟩

end ShaderPreview
