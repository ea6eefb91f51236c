import Mathlib.Tactic.Common
import Sidecar.Cluster.Load

/-!
Which failures to find the API server are reported as such.
-/

namespace Sidecar

/-- A failure is reported under the name of the step. -/
def ClusterError.NamesStep (e : ClusterError) : Prop :=
  e.isReported = true ∧ ∃ reason, e.message = failure ++ reason

namespace Client

variable {client : Client} {env : Environment} {t : FileTree} {context : Option String}

/-- If the client fails, it is because the configuration of a pod is not there or wrong, and then because that
of the kubeconfig is, or a system call has failed. -/
structure FailsHandled (client : Client) (env : Environment) (t : FileTree) (context : Option String) :
    Prop where
  inCluster : ∀ failure, client.inCluster env t = .error failure → ∃ text, failure = .configuration text
  kubeconfig : ∀ missing failure, client.inCluster env t = .error missing →
    client.kubeconfig env t context = .error failure → ∀ kind text, failure ≠ .other kind text

theorem namesStep_load_iff :
    (∀ e, (client.load env t context).result = .error e → e.NamesStep) ↔
      client.FailsHandled env t context := by
  have hunhandled (failure : LoadFailure) : ¬ ClusterError.NamesStep (.unhandled failure) :=
    fun h => Bool.false_ne_true h.1
  unfold load
  cases hcluster : client.inCluster env t with
  | ok access => exact ⟨fun _ => ⟨by simp [hcluster], by simp [hcluster]⟩, fun _ e he => nomatch he⟩
  | error missing =>
    cases missing with
    | configuration text =>
      dsimp only
      have hmissing : ∀ failure, client.inCluster env t = .error failure →
          ∃ text, failure = LoadFailure.configuration text := by
        rintro failure h
        exact ⟨text, (Except.error.inj (hcluster.symm.trans h)).symm⟩
      cases hkube : client.kubeconfig env t context with
      | ok access => exact ⟨fun _ => ⟨hmissing, by simp [hkube]⟩, fun _ e he => nomatch he⟩
      | error failure =>
        have hkeeps (h : ∀ kind text, failure ≠ .other kind text) : client.FailsHandled env t context := by
          refine ⟨hmissing, fun _ found _ hfound => ?_⟩
          rwa [← Except.error.inj (hkube.symm.trans hfound)]
        cases failure with
        | other kind text =>
          refine ⟨fun h => absurd (h _ rfl) (hunhandled _), fun h => ?_⟩
          exact absurd rfl (h.kubeconfig _ _ hcluster hkube kind text)
        | configuration | system =>
          refine ⟨fun _ => hkeeps nofun, fun _ e he => ?_⟩
          obtain rfl := Except.error.inj he
          exact ⟨rfl, _, rfl⟩
    | system | other =>
      refine ⟨fun h => absurd (h _ rfl) (hunhandled _), fun h => ?_⟩
      obtain ⟨text, htext⟩ := h.inCluster _ hcluster
      nomatch htext

end Client

end Sidecar
