import Mathlib.Control.Monad.Basic
import Sidecar.Proofs.Certificate.Bundle
import Sidecar.Proofs.Cluster.Load
import Sidecar.Proofs.Startup.Credentials
import Sidecar.Startup
import Sidecar.Yaml.Document

/-!
A proxy serves only when all substitute credentials are in place. A start that fails is reported under the
name of the step that has failed, and leaves the files of the steps before it.
-/

namespace Sidecar

/-- An error of a start is reported, under the name of a step. -/
def StartError.Reports (e : StartError) (step : String) : Prop :=
  e.isReported = true ∧ ∃ reason, e.message = step ++ reason

namespace Startup

open Credentials (IsText Leaves fileNames publishAll writeAuthority)

variable {s : Settings} {given : Option (List UInt8)} {lookup : Lookup} {t : FileTree}
  {bundle : CertificateBundle}

/-- What is promised of the start of a proxy that has this certificate, from these files. -/
structure ProxyPromise (s : Settings) (given : Option (List UInt8)) (lookup : Lookup) (t : FileTree)
    (bundle : CertificateBundle) : Prop where
  served : ∀ service, (proxy s given lookup t).result = .ok service →
    service.bundle = bundle ∧ Leaves s given bundle.authority fileNames t (proxy s given lookup t).tree
  unpublished : ∀ e, (publishAll s given (.certificate bundle.authority) t).result = .error e →
    (proxy s given lookup t).result = .error (.credentials e) ∧
      StartError.Reports (.credentials e) e.step.failure ∧
      Leaves s given bundle.authority e.step.done t (proxy s given lookup t).tree
  unfound : ∀ path e, (publishAll s given (.certificate bundle.authority) t).result = .ok path →
    (lookup (publishAll s given (.certificate bundle.authority) t).tree s.kubeContext).result = .error e →
    (proxy s given lookup t).result = .error (.cluster e) ∧
      StartError.Reports (.cluster e) ClusterError.failure ∧
      Leaves s given bundle.authority fileNames t (proxy s given lookup t).tree

/-- All that can come of the start of a proxy, after its files have been published or not. -/
inductive ProxyOutcome (lookup : Lookup) (context : Option String) (bundle : CertificateBundle)
    (files : Published) : Launch → Prop where
  | unpublished {e : CredentialError} {log : List LogLine} (hfiles : files.result = .error e) :
    ProxyOutcome lookup context bundle files ⟨.error (.credentials e), files.tree, log, [], none⟩
  | unfound {path : FilePath} {e : ClusterError} {log : List LogLine} {contexts : List (Option String)}
    (hfiles : files.result = .ok path) (hlookup : (lookup files.tree context).result = .error e) :
    ProxyOutcome lookup context bundle files ⟨.error (.cluster e), files.tree, log, contexts, none⟩
  | untrusted {path : FilePath} {access : ClusterAccess} {e : TrustError} {log : List LogLine}
    {contexts : List (Option String)} (hfiles : files.result = .ok path)
    (hlookup : (lookup files.tree context).result = .ok access) :
    ProxyOutcome lookup context bundle files ⟨.error (.trust e), files.tree, log, contexts, none⟩
  | served {path : FilePath} {access : ClusterAccess} {service : Service} {log : List LogLine}
    {contexts : List (Option String)} (hfiles : files.result = .ok path)
    (hlookup : (lookup files.tree context).result = .ok access) (hbundle : service.bundle = bundle) :
    ProxyOutcome lookup context bundle files ⟨.ok service, files.tree, log, contexts, none⟩

theorem proxyOutcome (s : Settings) (given : Option (List UInt8)) (lookup : Lookup) (t : FileTree)
    (h : CertificateBundle.generate proxyDnsNames proxyAddresses = .ok bundle) :
    ProxyOutcome lookup s.kubeContext bundle (publishAll s given (.certificate bundle.authority) t)
      (proxy s given lookup t) := by
  unfold proxy
  rw [h]
  simp only
  generalize publishAll s given (.certificate bundle.authority) t = files
  cases hfiles : files.result with
  | error e => exact .unpublished hfiles
  | ok path =>
    simp only
    cases hlookup : (lookup files.tree s.kubeContext).result with
    | error e => exact .unfound hfiles hlookup
    | ok access =>
      simp only
      cases Proxy.Endpoint.ofAccess files.tree access with
      | error e => exact .untrusted hfiles hlookup
      | ok endpoint => exact .served hfiles hlookup rfl

theorem leaves_of_publishAll (hs : s.Plain) (htree : t.Rooted) {authority : Certificate} {path : FilePath}
    (h : (publishAll s given (.certificate authority) t).result = .ok path) :
    Leaves s given authority fileNames t (publishAll s given (.certificate authority) t).tree := by
  cases Credentials.stepOutcome_publishAll hs htree given authority with
  | stopped hresult =>
    rw [hresult] at h
    nomatch h
  | passed _ hleaves => exact hleaves

theorem reports_of_publishAll (hs : s.Plain) (htree : t.Rooted) {authority : Certificate}
    (htext : (∃ path, (writeAuthority s (.certificate authority) t).result = .ok path) → IsText given)
    {e : CredentialError} (h : (publishAll s given (.certificate authority) t).result = .error e) :
    StartError.Reports (.credentials e) e.step.failure ∧
      Leaves s given authority e.step.done t (publishAll s given (.certificate authority) t).tree := by
  cases Credentials.stepOutcome_publishAll hs htree given authority with
  | stopped hresult hcause hleaves =>
    obtain rfl := Except.error.inj (hresult.symm.trans h)
    cases hcause with
    | obstructed => exact ⟨⟨rfl, _, rfl⟩, hleaves⟩
    | notText hgiven =>
      obtain ⟨hauthority, -⟩ := (Credentials.publishAll_notText_iff s given _ t).mp ⟨_, h⟩
      exact absurd (htext hauthority) hgiven
  | passed hresult =>
    rw [hresult] at h
    nomatch h

theorem ProxyPromise.namesStep (h : ProxyPromise s given lookup t bundle)
    (hbundle : CertificateBundle.generate proxyDnsNames proxyAddresses = .ok bundle) {e : ClusterError}
    (hresult : (proxy s given lookup t).result = .error (.cluster e)) : e.NamesStep := by
  have houtcome := proxyOutcome s given lookup t hbundle
  generalize proxy s given lookup t = launch at hresult houtcome
  cases houtcome with
  | unpublished | untrusted | served => nomatch hresult
  | unfound hfiles hlookup =>
    obtain rfl := StartError.cluster.inj (Except.error.inj hresult)
    exact (h.unfound _ _ hfiles hlookup).2.1

theorem ProxyPromise.isText (h : ProxyPromise s given lookup t bundle)
    (hauthority : ∃ path, (writeAuthority s (.certificate bundle.authority) t).result = .ok path) :
    IsText given := by
  by_contra hgiven
  obtain ⟨bytes, hbytes⟩ := (Credentials.publishAll_notText_iff s given _ t).mpr ⟨hauthority, hgiven⟩
  obtain ⟨-, hreports, -⟩ := h.unpublished _ hbytes
  exact Bool.false_ne_true hreports.1

theorem promised_of_namesStep (hs : s.Plain) (htree : t.Rooted)
    (hbundle : CertificateBundle.generate proxyDnsNames proxyAddresses = .ok bundle)
    (htext : (∃ path, (writeAuthority s (.certificate bundle.authority) t).result = .ok path) → IsText given)
    (h : ∀ path e, (publishAll s given (.certificate bundle.authority) t).result = .ok path →
      (lookup (publishAll s given (.certificate bundle.authority) t).tree s.kubeContext).result = .error e →
      e.NamesStep) : ProxyPromise s given lookup t bundle where
  served service hresult := by
    have houtcome := proxyOutcome s given lookup t hbundle
    generalize proxy s given lookup t = launch at hresult houtcome ⊢
    cases houtcome with
    | unpublished | unfound | untrusted => nomatch hresult
    | served hfiles _ hsame =>
      obtain rfl := Except.ok.inj hresult
      exact ⟨hsame, leaves_of_publishAll hs htree hfiles⟩
  unpublished e herror := by
    have hreports := reports_of_publishAll hs htree htext herror
    have houtcome := proxyOutcome s given lookup t hbundle
    generalize proxy s given lookup t = launch at houtcome ⊢
    cases houtcome with
    | unpublished hfiles =>
      obtain rfl := Except.error.inj (herror.symm.trans hfiles)
      exact ⟨rfl, hreports⟩
    | unfound hfiles | untrusted hfiles | served hfiles =>
      rw [hfiles] at herror
      nomatch herror
  unfound path e hpath herror := by
    have hleaves := leaves_of_publishAll hs htree hpath
    have houtcome := proxyOutcome s given lookup t hbundle
    generalize proxy s given lookup t = launch at houtcome ⊢
    cases houtcome with
    | unpublished hfiles =>
      rw [hfiles] at hpath
      nomatch hpath
    | unfound _ hlookup =>
      obtain rfl := Except.error.inj (herror.symm.trans hlookup)
      exact ⟨rfl, h path e hpath herror, hleaves⟩
    | untrusted _ hlookup | served _ hlookup =>
      rw [hlookup] at herror
      nomatch herror

/-- However the API server is looked up, the promise is kept exactly if the namespace is a text, should it
come to that, and failures to find the server are reported under the name of that step. -/
theorem promised_iff_namesStep (hs : s.Plain) (htree : t.Rooted)
    (hbundle : CertificateBundle.generate proxyDnsNames proxyAddresses = .ok bundle) :
    ProxyPromise s given lookup t bundle ↔
      ((∃ path, (writeAuthority s (.certificate bundle.authority) t).result = .ok path) → IsText given) ∧
      ∀ path e, (publishAll s given (.certificate bundle.authority) t).result = .ok path →
        (lookup (publishAll s given (.certificate bundle.authority) t).tree s.kubeContext).result = .error e →
        e.NamesStep :=
  ⟨fun h => ⟨h.isText, fun path e hfiles hlookup => (h.unfound path e hfiles hlookup).2.1⟩,
    fun h => promised_of_namesStep hs htree hbundle h.1 h.2⟩

/-- With plain paths, whatever files there are and whatever client library is used, the start of a proxy
keeps its promise exactly if the namespace that is given is a text, should the first file be written, and
the client fails in ways that are handled, should all files be. -/
theorem proxy_promised_iff (hs : s.Plain) (htree : t.Rooted) (given : Option (List UInt8))
    (env : Environment) (client : Client) :
    ∃ bundle, CertificateBundle.generate proxyDnsNames proxyAddresses = .ok bundle ∧ bundle.Issued ∧
      (ProxyPromise s given (client.load env) t bundle ↔
        ((∃ path, (writeAuthority s (.certificate bundle.authority) t).result = .ok path) → IsText given) ∧
        ∀ path, (publishAll s given (.certificate bundle.authority) t).result = .ok path →
          client.FailsHandled env (publishAll s given (.certificate bundle.authority) t).tree s.kubeContext) := by
  obtain ⟨bundle, hbundle⟩ : ∃ bundle, CertificateBundle.generate proxyDnsNames proxyAddresses = .ok bundle :=
    ⟨_, rfl⟩
  refine ⟨bundle, hbundle, CertificateBundle.issued_of_generate hbundle, ?_⟩
  rw [promised_iff_namesStep hs htree hbundle]
  refine and_congr_right fun _ => forall_congr' fun path => ?_
  rw [forall_comm, ← Client.namesStep_load_iff]

/-- The files that a pod finds the API server with. -/
def accountFile (name : String) : FilePath := .ofText ("/var/run/secrets/kubernetes.io/serviceaccount/" ++ name)

/-- A client library that reads files: those of a pod, if it is told where the API server is, and the
kubeconfig of a home directory, in which it finds no context. -/
def fileClient : Client where
  inCluster env t :=
    match env.get? "KUBERNETES_SERVICE_HOST", env.get? "KUBERNETES_SERVICE_PORT" with
    | some host, some port =>
      match t.readFile (accountFile "token"), t.readFile (accountFile "ca.crt") with
      | .ok (.bytes token), .ok _ => .ok {
          host := "https://" ++ host ++ ":" ++ port
          authorityFile := some (accountFile "ca.crt").text
          apiKeys := [(ClusterAccess.authorizationKey, "bearer " ++ (Utf8.decode? token).getD "")] }
      | _, _ => .error (.configuration "Service token file does not exist.")
    | _, _ => .error (.configuration "Service host/port is not set.")
  kubeconfig _ t _ :=
    match t.readFile (.ofText "/root/.kube/config") with
    | .ok (.bytes b) =>
      match Yaml.documentsOfBytes b with
      | .ok _ => .error (.configuration
          "Invalid kube-config file. Expected key current-context in /root/.kube/config")
      | .error fault => .error (.other "ValueError" fault.message)
    | _ => .error (.configuration "Invalid kube-config file. No configuration found.")

/-- What a pod of the namespace `web` finds. -/
def accountTree : FileTree where
  entries := [
    (["var"], .directory),
    (["var", "run"], .directory),
    (["var", "run", "secrets"], .directory),
    (["var", "run", "secrets", "kubernetes.io"], .directory),
    (["var", "run", "secrets", "kubernetes.io", "serviceaccount"], .directory),
    (["var", "run", "secrets", "kubernetes.io", "serviceaccount", "namespace"],
      .file (.bytes (Utf8.encode "web"))),
    (["var", "run", "secrets", "kubernetes.io", "serviceaccount", "token"],
      .file (.bytes (Utf8.encode "secret"))),
    (["var", "run", "secrets", "kubernetes.io", "serviceaccount", "ca.crt"],
      .file (.certificate CertificateBundle.newAuthority))]

def podEnvironment : Environment :=
  [("KUBERNETES_SERVICE_HOST", "10.0.0.1"), ("KUBERNETES_SERVICE_PORT", "443")]

theorem plain_default : Settings.Plain {} :=
  ⟨⟨by decide +kernel, by decide +kernel⟩, ⟨by decide +kernel, by decide +kernel⟩,
    ⟨by decide +kernel, by decide +kernel⟩⟩

/-- Without a namespace of its own a proxy serves with that of the service account. -/
theorem proxy_promised_account : Settings.Plain {} ∧ accountTree.Rooted ∧
    ∃ service, (proxy {} none (fileClient.load podEnvironment) accountTree).result = .ok service ∧
      (proxy {} none (fileClient.load podEnvironment) accountTree).tree.readFile
        (Credentials.target {} "namespace") = .ok (.bytes (Utf8.encode "web")) := by
  have hs : Settings.Plain {} := plain_default
  have htree : accountTree.Rooted := by decide +kernel
  obtain ⟨bundle, hbundle, -, hpromised⟩ := proxy_promised_iff hs htree none podEnvironment fileClient
  have hstarts :
      (proxy {} none (fileClient.load podEnvironment) accountTree).result.toOption.isSome = true := by
    decide +kernel
  cases hresult : (proxy {} none (fileClient.load podEnvironment) accountTree).result with
  | error e =>
    rw [hresult] at hstarts
    nomatch hstarts
  | ok service =>
    have hfinds : ∀ path,
        (publishAll {} none (.certificate bundle.authority) accountTree).result = .ok path →
        fileClient.FailsHandled podEnvironment
          (publishAll {} none (.certificate bundle.authority) accountTree).tree none := by
      intro path _
      have hload : (fileClient.inCluster podEnvironment
          (publishAll {} none (.certificate bundle.authority) accountTree).tree).toOption.isSome = true := by
        obtain rfl := Except.ok.inj hbundle
        decide +kernel
      constructor
      · intro failure hfailure
        rw [hfailure] at hload
        nomatch hload
      · intro missing failure hmissing
        rw [hmissing] at hload
        nomatch hload
    have hpromise : ProxyPromise {} none (fileClient.load podEnvironment) accountTree bundle :=
      hpromised.mpr ⟨fun _ => nofun, hfinds⟩
    obtain ⟨-, hleaves⟩ := hpromise.served service hresult
    obtain ⟨content, hcontent, hread⟩ := hleaves.holds "namespace" (by decide)
    refine ⟨hs, htree, service, rfl, ?_⟩
    have hweb : accountTree.readFile (Credentials.namespaceSource {}) = .ok (.bytes (Utf8.encode "web")) := by
      decide +kernel
    rw [hread, ← hweb]
    exact (hcontent.copied_of_unset nofun).symm

/-- A kubeconfig with a day that no calendar has. -/
def undatedTree : FileTree where
  entries := [
    (["root"], .directory),
    (["root", ".kube"], .directory),
    (["root", ".kube", "config"], .file (.bytes (Utf8.encode "apiVersion: 2020-13-01\n")))]

/-- All files are published, but the failure to find the API server is not reported. -/
theorem not_promised_of_undated : ∃ bundle,
    CertificateBundle.generate proxyDnsNames proxyAddresses = .ok bundle ∧
    (proxy {} (some (Utf8.encode "web")) (fileClient.load []) undatedTree).result =
      .error (.cluster (.unhandled (.other "ValueError" "month must be in 1..12"))) ∧
    ¬ ProxyPromise {} (some (Utf8.encode "web")) (fileClient.load []) undatedTree bundle := by
  have hstopped : (proxy {} (some (Utf8.encode "web")) (fileClient.load []) undatedTree).result =
      .error (.cluster (.unhandled (.other "ValueError" "month must be in 1..12"))) := by decide +kernel
  obtain ⟨bundle, hbundle⟩ : ∃ bundle, CertificateBundle.generate proxyDnsNames proxyAddresses = .ok bundle :=
    ⟨_, rfl⟩
  exact ⟨bundle, hbundle, hstopped, fun h => Bool.false_ne_true (h.namesStep hbundle hstopped).1⟩

end Startup

end Sidecar
