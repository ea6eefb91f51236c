import Sidecar.Proofs.Certificate.Bundle
import Sidecar.Proofs.Registration.Session
import Sidecar.Proofs.Text.Base64
import Sidecar.Proofs.Value.Path
import Sidecar.Startup

/-!
What a webhook that has started has told the API server: where to find it, and whom to trust there. Its
certificate is for that very name and comes from that very authority. Where no certificate can be made no
call is made, and where the registration is refused nothing is served.
-/

namespace Sidecar

/-- The bytes of a content, given those of certificates. -/
def Content.toBytes (pem : Certificate → List UInt8) : Content → List UInt8
  | .bytes b => b
  | .certificate c => pem c

namespace Registration

/-- A registration as it is sent, with its bundle in base 64. -/
def document (pem : Certificate → List UInt8) (r : Registration) (version : Option Nat) : Value :=
  r.toValue version (.str (Base64.encode (r.caBundle.toBytes pem)))

end Registration

/-- What the API server takes from the object of a webhook: the name that it dials, and the bytes of the
authority that it trusts there. -/
structure Route where
  host : String
  authority : List UInt8
  deriving DecidableEq, Repr

/-- The route to the service of the only webhook of an object. -/
def Route.ofObject? (object : Value) : Option Route :=
  match object.field? "webhooks" with
  | some (.list [webhook]) =>
    let clientConfig (path : List String) := webhook.at? ("clientConfig" :: path)
    match clientConfig ["service", "name"], clientConfig ["service", "namespace"],
        clientConfig ["caBundle"] with
    | some (.str name), some (.str serviceNamespace), some (.str bundle) =>
      (Base64.decode? bundle.toList).map (⟨name ++ "." ++ serviceNamespace ++ ".svc", ·⟩)
    | _, _, _ => none
  | _ => none

theorem Route.ofObject?_document (pem : Certificate → List UInt8) (r : Registration)
    (version : Option Nat) : Route.ofObject? (r.document pem version) =
      some ⟨r.serviceName ++ "." ++ r.serviceNamespace ++ ".svc", r.caBundle.toBytes pem⟩ := by
  have hroute : Route.ofObject? (r.document pem version) =
      (Base64.decode? (Base64.encode (r.caBundle.toBytes pem)).toList).map
        (⟨r.serviceName ++ "." ++ r.serviceNamespace ++ ".svc", ·⟩) := rfl
  rw [hroute, Base64.decode?_encode, Option.map_some]

namespace Registration

/-- What an API server says to the calls of one run: writes are stored and reads find a version, unless
they are refused. -/
structure Replies where
  create : Except ApiError Nat
  read : Except ApiError Nat
  replace : Except ApiError Nat

def Replies.to (replies : Replies) : ApiCall → ApiReply
  | .create _ => match replies.create with
    | .ok version => .stored version
    | .error e => .refused e
  | .read _ => match replies.read with
    | .ok version => .found version
    | .error e => .refused e
  | .replace .. => match replies.replace with
    | .ok version => .stored version
    | .error e => .refused e

/-- How far a run has come after its next call, if that is answered so. -/
def Replies.next (replies : Replies) (r : Registration) (p : Progress) : Progress :=
  match p.call? r with
  | none => p
  | some call => p.receive (replies.to call)

/-- All that a run sees of the API server is its replies, and any replies are those of some store, with some
calls made to fail. -/
theorem exists_progress_apply_eq (r : Registration) (replies : Replies) :
    ∃ forced store, (r.apply forced store).progress =
      replies.next r (replies.next r (replies.next r .creating)) := by
  obtain ⟨create, read, replace⟩ := replies
  cases create with
  | ok version => exact ⟨{}, {}, rfl⟩
  | error e =>
    by_cases hconflict : e.status = 409
    · cases read with
      | error e' =>
        refine ⟨{ create := some e, read := some e' }, {}, ?_⟩
        simp [apply, Run.step, Replies.next, Replies.to, ForcedFailures.of, Progress.call?,
          Progress.receive, hconflict]
      | ok version =>
        let store : RegistrationStore := ⟨[(r.name, ⟨version, none⟩)], 0⟩
        have hversion : store.version? r.name = some version := by simp [store, RegistrationStore.version?]
        cases replace with
        | error e' =>
          refine ⟨{ create := some e, replace := some e' }, store, ?_⟩
          simp [apply, Run.step, Replies.next, Replies.to, ForcedFailures.of, Progress.call?,
            Progress.receive, hconflict, RegistrationStore.serve, hversion]
        | ok _ =>
          refine ⟨{ create := some e }, store, ?_⟩
          simp [apply, Run.step, Replies.next, Replies.to, ForcedFailures.of, Progress.call?,
            Progress.receive, hconflict, RegistrationStore.serve, hversion]
    · refine ⟨{ create := some e }, {}, ?_⟩
      simp [apply, Run.step, Replies.next, Replies.to, ForcedFailures.of, Progress.call?,
        Progress.receive, hconflict]

/-- Unless it fails, a run leaves its registration in the store, whatever was there. -/
theorem exists_lookup_apply {r : Registration} {forced : ForcedFailures} {store : RegistrationStore}
    (h : ∀ e, (r.apply forced store).progress ≠ .failed e) :
    ∃ version, (r.apply forced store).store.objects.lookup r.name = some ⟨version, some r⟩ := by
  have houtcome := outcome_apply r forced store
  generalize r.apply forced store = run at h houtcome
  cases houtcome with
  | created | replaced => exact ⟨_, store.lookup_put_self r.name r⟩
  | notCreated | notRead | notReplaced => exact absurd rfl (h _)

end Registration

/-- The API server reaches the service by what it has stored: it dials a name that the certificate is for,
and trusts the very authority that has issued the certificate. -/
structure Service.Routed (pem : Certificate → List UInt8) (service : Service) (r : Registration)
    (store : RegistrationStore) : Prop where
  stored : ∃ version, store.objects.lookup r.name = some ⟨version, some r⟩
  route : ∀ version, ∃ route, Route.ofObject? (r.document pem version) = some route ∧
    .dns route.host ∈ service.bundle.certificate.altNames ∧
    route.authority = pem service.bundle.authority
  issued : service.bundle.Issued

namespace Startup

/-- All that can come of the start of a webhook, stage by stage. -/
inductive WebhookOutcome (s : Settings) (api : Api) : Launch → Prop where
  | noCertificate {e : CertificateError} {t : FileTree} {log : List LogLine}
    (h : CertificateBundle.generate s.webhook.dnsNames [] = .error e) :
    WebhookOutcome s api ⟨.error (.webhookCertificate e), t, log, [], none⟩
  | noCluster {bundle : CertificateBundle} {e : ClusterError} {t : FileTree} {log : List LogLine}
    {contexts : List (Option String)}
    (h : CertificateBundle.generate s.webhook.dnsNames [] = .ok bundle) :
    WebhookOutcome s api ⟨.error (.cluster e), t, log, contexts, none⟩
  | notRegistered {bundle : CertificateBundle} {e : ApiError} {t : FileTree} {log : List LogLine}
    {contexts : List (Option String)} {r : Registration} {run : Registration.Run}
    (h : CertificateBundle.generate s.webhook.dnsNames [] = .ok bundle)
    (hr : r = .build s.webhook (.certificate bundle.authority))
    (hrun : run = r.apply api.forced api.store) (hfailed : run.progress = .failed e) :
    WebhookOutcome s api ⟨.error (.registration e), t, log, contexts, some (r, run)⟩
  | serves {bundle : CertificateBundle} {t : FileTree} {log : List LogLine}
    {contexts : List (Option String)} {r : Registration} {run : Registration.Run}
    (h : CertificateBundle.generate s.webhook.dnsNames [] = .ok bundle)
    (hr : r = .build s.webhook (.certificate bundle.authority))
    (hrun : run = r.apply api.forced api.store) (happlied : ∀ e, run.progress ≠ .failed e) :
    WebhookOutcome s api
      ⟨.ok ⟨webhookHost, s.webhook.port, bundle, none⟩, t, log, contexts, some (r, run)⟩

theorem webhookOutcome (s : Settings) (lookup : Option Lookup) (api : Api) (t : FileTree) :
    WebhookOutcome s api (webhook s lookup api t) := by
  unfold webhook
  cases hbundle : CertificateBundle.generate s.webhook.dnsNames [] with
  | error e => exact .noCertificate hbundle
  | ok bundle =>
    dsimp only
    split
    · exact .noCluster hbundle
    · split
      · rename_i hfailed
        exact .notRegistered hbundle rfl rfl hfailed
      · rename_i happlied
        exact .serves hbundle rfl rfl happlied

/-- A service under the names of a configuration is where its registration leads. -/
theorem routed_of_generate {c : WebhookConfig} {service : Service} {store : RegistrationStore}
    {version : Nat} (pem : Certificate → List UInt8)
    (h : CertificateBundle.generate c.dnsNames [] = .ok service.bundle)
    (hstored : store.objects.lookup c.webhookName =
      some ⟨version, some (.build c (.certificate service.bundle.authority))⟩) :
    service.Routed pem (.build c (.certificate service.bundle.authority)) store := by
  refine ⟨⟨version, hstored⟩, fun sent => ⟨_, Route.ofObject?_document pem _ sent, ?_, rfl⟩, ?_⟩
  · rw [CertificateBundle.altNames_generate h]
    simp [WebhookConfig.dnsNames, Registration.build]
  · exact CertificateBundle.issued_of_generate h

variable {s : Settings} {lookup : Option Lookup} {api : Api} {t : FileTree}

theorem webhook_routed_of_eq_ok (pem : Certificate → List UInt8) {service : Service}
    (h : (webhook s lookup api t).result = .ok service) :
    ∃ r run, (webhook s lookup api t).applied = some (r, run) ∧ r.name = s.webhook.webhookName ∧
      service.Routed pem r run.store := by
  have houtcome := webhookOutcome s lookup api t
  generalize webhook s lookup api t = launch at h houtcome
  cases houtcome with
  | noCertificate | noCluster | notRegistered => nomatch h
  | serves hbundle hr hrun happlied =>
    obtain rfl := Except.ok.inj h
    subst hr hrun
    obtain ⟨version, hstored⟩ := Registration.exists_lookup_apply happlied
    exact ⟨_, _, rfl, rfl, routed_of_generate pem hbundle hstored⟩

/-- It is the certificate that fails exactly for the names that none is made for. -/
theorem unfit_iff_webhook_eq_error : CertificateBundle.Unfit s.webhook.dnsNames ↔
    ∃ e, (webhook s lookup api t).result = .error (.webhookCertificate e) := by
  rw [← CertificateBundle.generate_eq_error_iff _ []]
  have houtcome := webhookOutcome s lookup api t
  generalize webhook s lookup api t = launch at houtcome
  cases houtcome with
  | noCertificate hbundle => exact iff_of_true ⟨_, hbundle⟩ ⟨_, rfl⟩
  | noCluster hbundle | notRegistered hbundle | serves hbundle =>
    rw [hbundle]
    exact iff_of_false (fun ⟨_, he⟩ => nomatch he) (fun ⟨_, he⟩ => nomatch he)

theorem webhook_silent_of_eq_error {e : CertificateError}
    (h : (webhook s lookup api t).result = .error (.webhookCertificate e)) :
    (webhook s lookup api t).applied = none ∧ (webhook s lookup api t).contexts = [] := by
  have houtcome := webhookOutcome s lookup api t
  generalize webhook s lookup api t = launch at h houtcome
  cases houtcome with
  | noCertificate => exact ⟨rfl, rfl⟩
  | noCluster | notRegistered | serves => nomatch h

theorem webhook_eq_error_of_failed {r : Registration} {run : Registration.Run} {e : ApiError}
    (happlied : (webhook s lookup api t).applied = some (r, run)) (hfailed : run.progress = .failed e) :
    (webhook s lookup api t).result = .error (.registration e) := by
  have houtcome := webhookOutcome s lookup api t
  generalize webhook s lookup api t = launch at happlied houtcome
  cases houtcome with
  | noCertificate | noCluster => nomatch happlied
  | notRegistered _ _ _ he =>
    obtain ⟨rfl, rfl⟩ := Prod.mk.inj (Option.some.inj happlied)
    obtain rfl := Registration.Progress.failed.inj (he.symm.trans hfailed)
    rfl
  | serves _ _ _ hnot =>
    obtain ⟨rfl, rfl⟩ := Prod.mk.inj (Option.some.inj happlied)
    exact absurd hfailed (hnot e)

/-- A webhook that serves is the one that the API server has been told of, with a certificate for the name
that is dialled, from the authority that is trusted. If no certificate can be made, no call is made, and if
the registration fails, nothing is served. This is so for any replies of the API server, as they are those
of some store and some failures. -/
theorem webhook_routed (pem : Certificate → List UInt8) (s : Settings) (lookup : Option Lookup) (api : Api)
    (t : FileTree) :
    let launch := webhook s lookup api t
    (∀ service, launch.result = .ok service → ∃ r run, launch.applied = some (r, run) ∧
      r.name = s.webhook.webhookName ∧ service.Routed pem r run.store) ∧
    (CertificateBundle.Unfit s.webhook.dnsNames → (∃ e, launch.result = .error (.webhookCertificate e)) ∧
      launch.applied = none ∧ launch.contexts = []) ∧
    ∀ r run e, launch.applied = some (r, run) → run.progress = .failed e →
      launch.result = .error (.registration e) := by
  intro launch
  refine ⟨fun service h => webhook_routed_of_eq_ok pem h, fun h => ?_,
    fun r run e happlied hfailed => webhook_eq_error_of_failed happlied hfailed⟩
  obtain ⟨e, he⟩ := unfit_iff_webhook_eq_error.mp h
  exact ⟨⟨e, he⟩, webhook_silent_of_eq_error he⟩

/-- With the default settings the webhook starts and is routed to. It makes no call if its name is not
ASCII, and does not serve if its registration is refused. -/
theorem webhook_routed_sample :
    (∃ service r run, (webhook {} none {} {}).result = .ok service ∧
      (webhook {} none {} {}).applied = some (r, run) ∧ service.Routed (fun _ => [77, 67, 65]) r run.store) ∧
    (webhook { webhook := { serviceName := "wébhook" } } none {} {}).applied = none ∧
    (webhook {} none ⟨{}, { create := some ⟨403, none⟩ }⟩ {}).result = .error (.registration ⟨403, none⟩) := by
  obtain ⟨hserves, -, -⟩ := webhook_routed (fun _ => [77, 67, 65]) {} none {} {}
  obtain ⟨-, hunfit, -⟩ :=
    webhook_routed (fun _ => [77, 67, 65]) { webhook := { serviceName := "wébhook" } } none {} {}
  obtain ⟨-, -, hfailed⟩ :=
    webhook_routed (fun _ => [77, 67, 65]) {} none ⟨{}, { create := some ⟨403, none⟩ }⟩ {}
  have hname : CertificateBundle.Unfit (WebhookConfig.dnsNames { serviceName := "wébhook" }) :=
    .inl ⟨"wébhook", by simp [WebhookConfig.dnsNames], 'é', by decide, by decide⟩
  refine ⟨?_, (hunfit hname).2.1, ?_⟩
  · obtain ⟨r, run, happlied, -, hrouted⟩ := hserves _ rfl
    exact ⟨_, r, run, rfl, happlied, hrouted⟩
  · exact hfailed _ _ _ rfl rfl

end Startup

end Sidecar
