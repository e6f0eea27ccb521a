import ShaderPreview.Application
import ShaderPreview.Proofs.Diagnostic.Harmless
import ShaderPreview.Proofs.Shader.Classification

/-!
# Verdict of a check

A source passes if it is renderable and has no error diagnostic, or if it does not parse and the
message is filtered by the normalizer as harmless.
-/

namespace ShaderPreview

def composed (source : String) : ComposedSource := compose source (needsTextures source)

/-- Sources that pass the check. -/
inductive Passes (frontEnd : FrontEnd) (source : String) : Prop
  | clean (renderable : (frontEnd.classify source).isRenderable = true)
      (diagnosed : rejects (frontEnd.diagnose (composed source)) = false)
  | harmless {complaint : Complaint}
      (unparsed : frontEnd.parse (composed source).text = .error complaint)
      (harmless : Diagnostic.Harmless
        (Classification.unparsed (composed source) complaint).complaint.toList)

theorem not_harmless_fragmentRequired : ¬ Diagnostic.Harmless fragmentRequired.toList := by
  rw [← Diagnostic.rejects_normalize fragmentRequired 0]
  decide +kernel

theorem hasErrors_check (frontEnd : FrontEnd) (path : Path) (source : String) :
    (frontEnd.check path source).hasErrors = false ↔ Passes frontEnd source := by
  show rejects (frontEnd.objections source (frontEnd.classify source)) = false ↔ _
  unfold FrontEnd.objections
  cases hrenderable : (frontEnd.classify source).isRenderable with
  | true =>
    rw [if_pos rfl]
    refine ⟨fun hclean => .clean hrenderable hclean, fun hpasses => ?_⟩
    cases hpasses with
    | clean _ diagnosed => exact diagnosed
    | harmless unparsed _ =>
      rw [classify_of_error unparsed] at hrenderable
      cases hrenderable
  | false =>
    rw [if_neg Bool.false_ne_true]
    refine (Diagnostic.rejects_normalize _ 0).trans ?_
    show Diagnostic.Harmless (frontEnd.classify source).complaint.toList ↔ _
    cases hparse : frontEnd.parse (composed source).text with
    | error complaint =>
      rw [classify_of_error hparse]
      refine ⟨fun hharmless => .harmless hparse hharmless, fun hpasses => ?_⟩
      cases hpasses with
      | clean renderable _ =>
        rw [renderable] at hrenderable
        cases hrenderable
      | harmless unparsed harmless =>
        rw [hparse] at unparsed
        cases unparsed
        exact harmless
    | ok parsed =>
      have hclassify := classify_of_ok hparse
      rw [hclassify] at hrenderable
      rw [hclassify, Classification.ofEntryPoints_complaint hrenderable]
      refine ⟨fun hharmless => absurd hharmless not_harmless_fragmentRequired, fun hpasses => ?_⟩
      cases hpasses with
      | clean renderable _ =>
        rw [hclassify, hrenderable] at renderable
        cases renderable
      | harmless unparsed _ =>
        rw [hparse] at unparsed
        cases unparsed

theorem exitCode_ofCheck (frontEnd : FrontEnd) (read : FileReader Id) (request : CheckRequest) :
    (ProgramOutcome.ofCheck (frontEnd.runCheck (m := Id) read request)).exitCode = 0 ↔
      ∃ source, textOf (read request.shader) = .ok source ∧
        (frontEnd.check request.shader source).hasErrors = false := by
  show (ProgramOutcome.ofCheck (frontEnd.checkFile request (read request.shader))).exitCode = 0 ↔ _
  cases htext : textOf (read request.shader) with
  | error reason =>
    have hfailed : frontEnd.checkFile request (read request.shader) =
        .error ((Failure.of reason).because s!"failed to read shader {request.shader.text}") := by
      simp only [FrontEnd.checkFile, shaderText, htext]
      rfl
    rw [hfailed]
    refine ⟨nofun, ?_⟩
    rintro ⟨source, hsource, _⟩
    cases hsource
  | ok source =>
    have hchecked : frontEnd.checkFile request (read request.shader) =
        .ok ⟨(frontEnd.check request.shader source).print request.format,
          !(frontEnd.check request.shader source).hasErrors⟩ := by
      simp only [FrontEnd.checkFile, shaderText, htext]
      rfl
    rw [hchecked]
    cases herrors : (frontEnd.check request.shader source).hasErrors with
    | true =>
      refine ⟨nofun, ?_⟩
      rintro ⟨other, hother, hclean⟩
      cases hother
      rw [herrors] at hclean
      cases hclean
    | false => exact ⟨fun _ => ⟨source, rfl, herrors⟩, fun _ => rfl⟩

/-- A report has no errors exactly for the sources that pass; the check of a file succeeds, in
either format, exactly if it holds such a source. -/
theorem check_verdict (frontEnd : FrontEnd) (read : FileReader Id) (request : CheckRequest) :
    (∀ source, (frontEnd.check request.shader source).hasErrors = false ↔
      Passes frontEnd source) ∧
    ((ProgramOutcome.ofCheck (frontEnd.runCheck (m := Id) read request)).exitCode = 0 ↔
      ∃ source, textOf (read request.shader) = .ok source ∧ Passes frontEnd source) := by
  refine ⟨hasErrors_check frontEnd request.shader, ?_⟩
  rw [exitCode_ofCheck]
  simp only [hasErrors_check]

/-- A shader that does not parse passes the check if the undeclared name reads like a status
phrase. -/
theorem check_verdict_unresolved :
    (Wgsl.frontEnd.classify unresolvedShader).isRenderable = false ∧
      (Wgsl.frontEnd.check ⟨"s.wgsl"⟩ unresolvedShader).hasErrors = false := by
  have hrefused := unresolvedShader_refused
  generalize Wgsl.frontEnd = frontEnd at hrefused ⊢
  obtain ⟨hpasses, _⟩ := check_verdict frontEnd (fun _ => .ok []) ⟨⟨"s.wgsl"⟩, .text⟩
  obtain ⟨hkind, hstatus⟩ := hrefused
  obtain ⟨complaint, hparse⟩ := unparsed_of_kind hkind
  rw [classify_of_error hparse] at hstatus
  refine ⟨?_, (hpasses unresolvedShader).2 (.harmless hparse (.status hstatus))⟩
  rw [classify_of_error hparse]
  rfl

end ShaderPreview
