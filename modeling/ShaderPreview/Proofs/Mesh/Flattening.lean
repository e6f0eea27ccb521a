import ShaderPreview.Mesh.Model

/-!
# Properties of flattening

Flattening checks the position of every index but slices the colours without a check. The slice is
safe because colours are used only if there are as many as positions. Success therefore depends on
the positions alone.
-/

namespace ShaderPreview

namespace MeshModel

/-! ### Three floats at an index -/

def triple (values : Array Single) (index : Nat) : List Single :=
  (values.toList.drop (3 * index)).take 3

theorem tripleAt?_eq (values : Array Single) (index : Nat) : tripleAt? values index =
    if 3 * index + 3 ≤ values.size then some (triple values index) else none := by
  unfold tripleAt? triple
  by_cases hbound : 3 * index + 3 ≤ values.size
  · have h₀ : 3 * index < values.toList.length := by rw [Array.length_toList]; omega
    have h₁ : 3 * index + 1 < values.toList.length := by rw [Array.length_toList]; omega
    have h₂ : 3 * index + 1 + 1 < values.toList.length := by rw [Array.length_toList]; omega
    rw [if_pos hbound, List.drop_eq_getElem_cons h₀, List.drop_eq_getElem_cons h₁,
      List.drop_eq_getElem_cons h₂]
    rw [Array.length_toList] at h₀ h₁ h₂
    simp only [Array.getElem?_eq_getElem h₀, Array.getElem?_eq_getElem h₁,
      Array.getElem?_eq_getElem h₂, Array.getElem_toList, List.take_succ_cons, List.take_zero]
  · have hlast : values[3 * index + 2]? = none := Array.getElem?_eq_none (by omega)
    rw [if_neg hbound, hlast]
    split
    · contradiction
    · rfl

theorem length_triple {values : Array Single} {index : Nat} (h : 3 * index + 3 ≤ values.size) :
    (triple values index).length = 3 := by
  unfold triple
  rw [List.length_take, List.length_drop, Array.length_toList]
  omega

/-! ### The vertex at an index -/

def Holds (model : MeshModel) (index : Nat) : Prop := 3 * index + 3 ≤ model.positions.size

instance (model : MeshModel) (index : Nat) : Decidable (model.Holds index) :=
  inferInstanceAs (Decidable (3 * index + 3 ≤ model.positions.size))

/-- One colour for each position. -/
def Coloured (model : MeshModel) : Prop :=
  model.colours ≠ #[] ∧ model.colours.size = model.positions.size

instance (model : MeshModel) : Decidable model.Coloured :=
  inferInstanceAs (Decidable (_ ∧ _))

/-- Position and colour at an index; white without colours. -/
def vertex (model : MeshModel) (index : Nat) : List Single :=
  triple model.positions index ++
    if model.Coloured then triple model.colours index else [.one, .one, .one]

variable {model : MeshModel} {index : Nat}

theorem isColoured_iff (model : MeshModel) : model.isColoured = true ↔ model.Coloured := by
  simp only [isColoured, Coloured, Bool.and_eq_true, Bool.not_eq_true', beq_iff_eq,
    Array.isEmpty_eq_false_iff, ne_eq]

theorem Coloured.holds (hcoloured : model.Coloured) (h : model.Holds index) :
    3 * index + 3 ≤ model.colours.size := by
  rw [hcoloured.2]
  exact h

theorem position_held (h : model.Holds index) :
    tripleAt? model.positions index = some (triple model.positions index) := by
  rw [tripleAt?_eq]
  exact if_pos h

theorem position_missing (h : ¬ model.Holds index) : tripleAt? model.positions index = none := by
  rw [tripleAt?_eq]
  exact if_neg h

theorem length_vertex (h : model.Holds index) : (model.vertex index).length = 6 := by
  have hposition : (triple model.positions index).length = 3 := length_triple h
  unfold vertex
  by_cases hcoloured : model.Coloured
  · have hcolour : (triple model.colours index).length = 3 := length_triple (hcoloured.holds h)
    rw [if_pos hcoloured, List.length_append, hposition, hcolour]
  · rw [if_neg hcoloured, List.length_append, hposition]
    rfl

/-! ### The walk with a cut that is not checked -/

/-- Slice of the colours at an index; `none` if out of bounds. -/
def cutColour? (model : MeshModel) (index : Nat) : Option (List Single) :=
  if model.isColoured then tripleAt? model.colours index else some white

/-- Unchecked flattening with bounds failures as `none`. -/
def walk? (model : MeshModel) (floats : List Single) :
    List Nat → Option (Except ModelFault (List Single))
  | [] => some (.ok floats)
  | index :: indices =>
    match tripleAt? model.positions index with
    | none => some (.error (.indexOutOfRange index))
    | some position => (model.cutColour? index).bind fun colour =>
        model.walk? (floats ++ position ++ colour) indices

theorem cutColour?_eq (h : model.Holds index) :
    model.cutColour? index = some (model.colourAt index) := by
  unfold cutColour? colourAt
  by_cases hcoloured : model.isColoured = true
  · have hbound := ((isColoured_iff model).1 hcoloured).holds h
    rw [if_pos hcoloured, if_pos hcoloured, tripleAt?_eq, if_pos hbound, Option.getD_some]
  · rw [if_neg hcoloured, if_neg hcoloured]

theorem vertexAt_held (h : model.Holds index) :
    model.vertexAt index = .ok (model.vertex index) := by
  unfold vertexAt vertex
  rw [position_held h]
  by_cases hcoloured : model.Coloured
  · have hbound := hcoloured.holds h
    simp only [colourAt, if_pos ((isColoured_iff model).2 hcoloured), if_pos hcoloured,
      tripleAt?_eq, if_pos hbound, Option.getD_some]
  · have hplain : ¬ model.isColoured = true := mt (isColoured_iff model).1 hcoloured
    simp only [colourAt, if_neg hplain, if_neg hcoloured, white]

theorem vertexAt_missing (h : ¬ model.Holds index) :
    model.vertexAt index = .error (.indexOutOfRange index) := by
  unfold vertexAt
  rw [position_missing h]

theorem walk?_eq (model : MeshModel) (floats : List Single) (indices : List Nat) :
    model.walk? floats indices =
      some ((indices.mapM model.vertexAt).map fun vertices => floats ++ vertices.flatten) := by
  induction indices generalizing floats with
  | nil => exact congrArg (fun rest => some (Except.ok rest)) (List.append_nil floats).symm
  | cons index indices ih =>
    rw [walk?, List.mapM_cons]
    by_cases h : model.Holds index
    · -- where the position exists, the colour does
      have hvertex : model.vertexAt index =
          .ok (triple model.positions index ++ model.colourAt index) := by
        unfold vertexAt
        rw [position_held h]
      rw [position_held h, hvertex]
      simp only [cutColour?_eq h, Option.bind_some, ih]
      cases indices.mapM model.vertexAt with
      | error fault => rfl
      | ok vertices =>
        simp only [bind, Except.bind, pure, Except.pure, Except.map, List.flatten_cons,
          List.append_assoc]
    · rw [position_missing h, vertexAt_missing h]
      rfl

/-! ### All indices -/

theorem vertices_held {indices : List Nat} (h : ∀ index ∈ indices, model.Holds index) :
    indices.mapM model.vertexAt = .ok (indices.map model.vertex) := by
  induction indices with
  | nil => rfl
  | cons index indices ih =>
    obtain ⟨hindex, hindices⟩ := List.forall_mem_cons.1 h
    rw [List.mapM_cons, vertexAt_held hindex, ih hindices]
    rfl

theorem vertices_missing {before after : List Nat} (hbefore : ∀ i ∈ before, model.Holds i)
    (h : ¬ model.Holds index) :
    (before ++ index :: after).mapM model.vertexAt = .error (.indexOutOfRange index) := by
  induction before with
  | nil =>
    rw [List.nil_append, List.mapM_cons, vertexAt_missing h]
    rfl
  | cons first before ih =>
    obtain ⟨hfirst, hrest⟩ := List.forall_mem_cons.1 hbefore
    rw [List.cons_append, List.mapM_cons, vertexAt_held hfirst, ih hrest]
    rfl

theorem exists_first_missing {indices : List Nat} (h : ¬ ∀ index ∈ indices, model.Holds index) :
    ∃ before index after, indices = before ++ index :: after ∧ (∀ i ∈ before, model.Holds i) ∧
      ¬ model.Holds index := by
  induction indices with
  | nil => exact absurd nofun h
  | cons first indices ih =>
    by_cases hfirst : model.Holds first
    · have hrest : ¬ ∀ index ∈ indices, model.Holds index := fun hall =>
        h (List.forall_mem_cons.2 ⟨hfirst, hall⟩)
      obtain ⟨before, index, after, rfl, hbefore, hmissing⟩ := ih hrest
      exact ⟨first :: before, index, after, rfl, List.forall_mem_cons.2 ⟨hfirst, hbefore⟩, hmissing⟩
    · exact ⟨[], first, indices, rfl, nofun, hfirst⟩

theorem length_vertices {indices : List Nat} (h : ∀ index ∈ indices, model.Holds index) :
    (indices.map model.vertex).flatten.length = 6 * indices.length := by
  induction indices with
  | nil => rfl
  | cons index indices ih =>
    obtain ⟨hindex, hindices⟩ := List.forall_mem_cons.1 h
    rw [List.map_cons, List.flatten_cons, List.length_append, length_vertex hindex, ih hindices,
      List.length_cons]
    omega

theorem vertex_at {indices : List Nat} (h : ∀ index ∈ indices, model.Holds index) (k : Nat)
    (hk : k < indices.length) :
    ((indices.map model.vertex).flatten.drop (6 * k)).take 6 = model.vertex indices[k] := by
  induction indices generalizing k with
  | nil => cases hk
  | cons index indices ih =>
    obtain ⟨hindex, hindices⟩ := List.forall_mem_cons.1 h
    have hlength := length_vertex hindex
    rw [List.map_cons, List.flatten_cons]
    cases k with
    | zero =>
      show (model.vertex index ++ _).take 6 = model.vertex index
      rw [← hlength]
      exact List.take_left
    | succ k =>
      have hpassed : 6 * (k + 1) = (model.vertex index).length + 6 * k := by omega
      rw [hpassed, ← List.drop_drop, List.drop_left]
      exact ih hindices k (Nat.lt_of_succ_lt_succ hk)

end MeshModel

/-! ### Vertex data -/

/-- Six floats for each index, in index order. -/
structure VertexData.Flattens (vertices : VertexData) (model : MeshModel) : Prop where
  length : vertices.floats.length = 6 * model.indices.length
  count : model.indices.length < 4294967296 → vertices.count = model.indices.length
  vertex : ∀ k, (h : k < model.indices.length) →
    (vertices.floats.drop (6 * k)).take 6 = model.vertex model.indices[k]

namespace MeshModel

variable {model : MeshModel}

theorem flatten_held (h : ∀ index ∈ model.indices, model.Holds index) (hne : model.indices ≠ []) :
    model.flatten = .ok ⟨(model.indices.map model.vertex).flatten⟩ := by
  have hlength := length_vertices h
  have hpos : 0 < model.indices.length := List.length_pos_iff.2 hne
  have hsome : (model.indices.map model.vertex).flatten.isEmpty = false := by
    rw [List.isEmpty_eq_false_iff, ← List.length_pos_iff]
    omega
  have hwhole : ¬ (model.indices.map model.vertex).flatten.length % floatsPerVertex ≠ 0 := by
    rw [hlength, floatsPerVertex]
    omega
  rw [flatten, vertices_held h]
  simp only [bind, Except.bind, VertexData.of, hsome, Bool.false_eq_true, if_false, if_neg hwhole]
  rfl

theorem flatten_empty (hnil : model.indices = []) :
    model.flatten = .error (.vertices .empty) := by
  rw [flatten, hnil]
  rfl

theorem flatten_missing {before after : List Nat} {index : Nat}
    (hindices : model.indices = before ++ index :: after) (hbefore : ∀ i ∈ before, model.Holds i)
    (h : ¬ model.Holds index) : model.flatten = .error (.indexOutOfRange index) := by
  rw [flatten, hindices, vertices_missing hbefore h]
  rfl

theorem flattens (h : ∀ index ∈ model.indices, model.Holds index) :
    VertexData.Flattens ⟨(model.indices.map model.vertex).flatten⟩ model where
  length := length_vertices h
  count := by
    intro hlt
    have hlength := length_vertices h
    simp only [VertexData.count, hlength, floatsPerVertex]
    omega
  vertex := vertex_at h

theorem flatten_ok_iff (model : MeshModel) (vertices : VertexData) :
    model.flatten = .ok vertices ↔
      vertices = ⟨(model.indices.map model.vertex).flatten⟩ ∧ model.indices ≠ [] ∧
        ∀ index ∈ model.indices, model.Holds index := by
  constructor
  · intro hok
    by_cases hnil : model.indices = []
    · rw [flatten_empty hnil] at hok
      cases hok
    by_cases hall : ∀ index ∈ model.indices, model.Holds index
    · rw [flatten_held hall hnil] at hok
      exact ⟨(Except.ok.inj hok).symm, hnil, hall⟩
    · obtain ⟨before, index, after, hindices, hbefore, hmissing⟩ := exists_first_missing hall
      rw [flatten_missing hindices hbefore hmissing] at hok
      cases hok
  · rintro ⟨rfl, hne, hall⟩
    exact flatten_held hall hne

end MeshModel

/-! ### The first model -/

/-- Unchecked flattening of the first model. -/
def walkedVertices? (models : List MeshModel) : Option (Except ModelFault VertexData) :=
  match models with
  | [] => some (.error .noModels)
  | model :: _ => (model.walk? [] model.indices).map fun outcome => do
      let floats ← outcome
      (VertexData.of floats).mapError .vertices

theorem walkedVertices?_eq (models : List MeshModel) :
    walkedVertices? models = some (meshVertices models) := by
  cases models with
  | nil => rfl
  | cons model others =>
    simp only [walkedVertices?, meshVertices, MeshModel.flatten, MeshModel.walk?_eq,
      Option.map_some]
    cases model.indices.mapM model.vertexAt <;> rfl

/-- The colour slice is never out of bounds. Loading succeeds exactly if there is a first model with
at least one index and all its indices have positions, and then gives the vertices in index order.
Otherwise the first index without a position is reported. -/
theorem mesh_flattened (models : List MeshModel) :
    walkedVertices? models = some (meshVertices models) ∧
    ((∃ vertices, meshVertices models = .ok vertices) ↔
      ∃ model, models.head? = some model ∧ model.indices ≠ [] ∧
        ∀ index ∈ model.indices, 3 * index + 3 ≤ model.positions.size) ∧
    ∀ model others, models = model :: others →
      meshVertices models = meshVertices [model] ∧
      (∀ vertices, meshVertices models = .ok vertices → vertices.Flattens model) ∧
      ∀ before index after, model.indices = before ++ index :: after →
        (∀ i ∈ before, 3 * i + 3 ≤ model.positions.size) →
        model.positions.size < 3 * index + 3 →
        meshVertices models = .error (.indexOutOfRange index) := by
  refine ⟨walkedVertices?_eq models, ?_, ?_⟩
  · cases models with
    | nil =>
      constructor
      · rintro ⟨vertices, hok⟩
        cases hok
      · rintro ⟨model, hmodel, _⟩
        cases hmodel
    | cons first others =>
      constructor
      · rintro ⟨vertices, hok⟩
        obtain ⟨_, hne, hall⟩ := (first.flatten_ok_iff vertices).1 hok
        exact ⟨first, rfl, hne, hall⟩
      · rintro ⟨model, hmodel, hne, hall⟩
        cases hmodel
        exact ⟨_, first.flatten_held hall hne⟩
  · rintro model others rfl
    refine ⟨rfl, fun vertices hok => ?_, fun before index after hindices hbefore hmissing => ?_⟩
    · obtain ⟨rfl, _, hall⟩ := (model.flatten_ok_iff vertices).1 hok
      exact model.flattens hall
    · exact model.flatten_missing hindices hbefore (Nat.not_le_of_gt hmissing)

end ShaderPreview
