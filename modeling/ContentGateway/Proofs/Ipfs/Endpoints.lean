import ContentGateway.Ipfs.Settings
import ContentGateway.Proofs.Http.Form
import ContentGateway.Proofs.Ipfs.Chores
import ContentGateway.Proofs.Url.Opening

/-!
# Where calls go

The URL of a call is the text of the address with a path behind it.  It stands for the path of
the address and the segments of the call exactly if the address opens and a content that is
named in the path comes out of it as it was put in.
-/

namespace ContentGateway
namespace Ipfs

variable {W : Type}

/-!
# Configured addresses
-/

def Settings.addresses (s : Settings) : List Url :=
  s.endpoint :: (s.nodes ++ s.clusters ++ s.pinata.toList.map PinataAccount.url)

theorem exists_of_bind_ok {α β ε : Type} {first : Except ε α} {next : α -> Except ε β} {value : β}
    (h : first >>= next = .ok value) : exists a, first = .ok a ∧ next a = .ok value := by
  cases first with
  | error failure => cases h
  | ok a => exact ⟨a, rfl, h⟩

theorem exists_of_mem_mapM_ok {α β ε : Type} {read : α -> Except ε β} {texts : List α}
    {values : List β} (h : texts.mapM read = .ok values) {value : β} (hvalue : value ∈ values) :
    exists text, read text = .ok value := by
  induction texts generalizing values with
  | nil =>
      cases h
      cases hvalue
  | cons text rest ih =>
      rw [List.mapM_cons] at h
      rcases exists_of_bind_ok h with ⟨first, hread, h⟩
      rcases exists_of_bind_ok h with ⟨others, hrest, h⟩
      cases h
      rcases List.mem_cons.mp hvalue with rfl | hothers
      · exact ⟨text, hread⟩
      · exact ih hrest hothers

theorem parsed_of_hostUrl {host : String} {port : Nat} {u : Url} (h : hostUrl host port = .ok u) :
    exists text, Url.parse? text = some u := by
  unfold hostUrl at h
  split at h
  · next hparse =>
      cases h
      exact ⟨_, hparse⟩
  · cases h

theorem parsed_of_multiaddress {text : String} {u : Url} (h : urlOfMultiaddress text = .ok u) :
    exists text, Url.parse? text = some u := by
  unfold urlOfMultiaddress at h
  split at h
  · cases h
  · split at h
    · next hparse =>
        cases h
        exact ⟨_, hparse⟩
    · cases h

theorem parsed_of_entryUrl {usualPort : Nat} {entry : String} {u : Url}
    (h : HostList.entryUrl usualPort entry = .ok u) : exists text, Url.parse? text = some u := by
  unfold HostList.entryUrl at h
  split at h
  · split at h
    · next hparse =>
        cases h
        exact ⟨_, hparse⟩
    · cases h
  · split at h
    · exact parsed_of_hostUrl h
    · dsimp only at h
      split at h
      · cases h
      · exact parsed_of_hostUrl h

namespace Settings

variable {env : Environment}

theorem parsed_of_endpointOf {u : Url} (h : endpointOf env = .ok u) :
    exists text, Url.parse? text = some u := by
  unfold endpointOf at h
  split at h
  · exact parsed_of_multiaddress h
  · rcases exists_of_bind_ok h with ⟨port, _, hurl⟩
    exact parsed_of_hostUrl hurl

theorem parsed_of_hosts {name : String} {usualPort : Nat} {urls : List Url}
    (h : hosts env name usualPort = .ok urls) {u : Url} (hu : u ∈ urls) :
    exists text, Url.parse? text = some u := by
  rcases exists_of_mem_mapM_ok h hu with ⟨entry, hentry⟩
  exact parsed_of_entryUrl hentry

theorem parsed_of_pinataOf {account : Option PinataAccount} (h : pinataOf env = .ok account)
    {u : Url} (hu : u ∈ account.toList.map PinataAccount.url) :
    exists text, Url.parse? text = some u := by
  unfold pinataOf at h
  split at h
  · split at h
    · next hparse =>
        cases h
        rw [Option.toList_some, List.map_singleton, List.mem_singleton] at hu
        rw [hu]
        exact ⟨_, hparse⟩
    · cases h
  · cases h
    cases hu

theorem parsed_of_ofEnvironment {s : Settings} (h : ofEnvironment env = .ok s) {u : Url}
    (hu : u ∈ s.addresses) : exists text, Url.parse? text = some u := by
  unfold ofEnvironment at h
  rcases exists_of_bind_ok h with ⟨endpoint, hendpoint, h⟩
  rcases exists_of_bind_ok h with ⟨limit, _, h⟩
  rcases exists_of_bind_ok h with ⟨poolSize, _, h⟩
  rcases exists_of_bind_ok h with ⟨nodes, hnodes, h⟩
  rcases exists_of_bind_ok h with ⟨clusters, hclusters, h⟩
  rcases exists_of_bind_ok h with ⟨pinata, hpinata, h⟩
  cases h
  rcases List.mem_cons.mp hu with rfl | hu
  · exact parsed_of_endpointOf hendpoint
  rcases List.mem_append.mp hu with hu | hu
  · rcases List.mem_append.mp hu with hu | hu
    · exact parsed_of_hosts hnodes hu
    · exact parsed_of_hosts hclusters hu
  · exact parsed_of_pinataOf hpinata hu

end Settings

/-!
# Names in endpoints
-/

def isWord (name : String) : Bool :=
  !name.isEmpty && name.toList.all Char.isAlphanum

theorem isWord_iff {name : String} :
    isWord name = true ↔ name ≠ "" ∧ forall c, c ∈ name.toList -> c.isAlphanum = true := by
  unfold isWord
  rw [Bool.and_eq_true, List.all_eq_true]
  simp

theorem plain_of_isAlphanum {c : Char} (h : c.isAlphanum = true) :
    Percent.inPath c = false ∧ Url.isSlash c = false ∧ Url.isLineBreak c = false ∧
      0x20 < c.toNat ∧ c ≠ '?' ∧ c ≠ '#' ∧ c ≠ '%' ∧ c ≠ '.' :=
  of_ascii (P := fun c => c.isAlphanum = true -> Percent.inPath c = false ∧
    Url.isSlash c = false ∧ Url.isLineBreak c = false ∧ 0x20 < c.toNat ∧ c ≠ '?' ∧ c ≠ '#' ∧
      c ≠ '%' ∧ c ≠ '.') (by decide +kernel) (ascii_of_isAlphanum h) h

theorem decode_of_isAlphanum {text : List Char} (h : forall c, c ∈ text -> c.isAlphanum = true) :
    Percent.decode text = Utf8.encode text :=
  Percent.decode_of_absent fun hc => (plain_of_isAlphanum (h _ hc)).2.2.2.2.2.2.1 rfl

theorem whole_of_isWord {name : String} (h : isWord name = true) : Url.Whole name := by
  rcases isWord_iff.mp h with ⟨_, hchars⟩
  refine ⟨?_, ?_, decode_of_isAlphanum hchars, ?_⟩
  · intro c hc
    rcases plain_of_isAlphanum (hchars c hc) with ⟨_, hslash, hbreak, _, hquery, hfragment, _⟩
    exact ⟨hslash, hbreak, hquery, hfragment⟩
  · intro c hc
    exact (plain_of_isAlphanum (hchars c (List.mem_of_getLast? hc))).2.2.2.1
  · have hdot : '.' ∉ name.toList :=
      fun hc => (plain_of_isAlphanum (hchars _ hc)).2.2.2.2.2.2.2 rfl
    unfold Url.isSkipped
    rw [Bool.or_eq_false_iff, beq_eq_false_iff_ne, beq_eq_false_iff_ne]
    constructor
    · rintro rfl
      exact hdot (by decide)
    · rintro rfl
      exact hdot (by decide)

theorem steady_of_isWord {name : String} (h : isWord name = true) : Url.Steady name := by
  rcases isWord_iff.mp h with ⟨_, hchars⟩
  refine ⟨⟨?_, ?_, (whole_of_isWord h).not_level⟩, (whole_of_isWord h).spelled⟩
  · exact fun c hc => (plain_of_isAlphanum (hchars c hc)).1
  · exact fun c hc => (plain_of_isAlphanum (hchars c hc)).2.1

/-!
# Goals of calls
-/

/-- The URL stands for the errand at the address. -/
structure Errand.Reaches (e : Errand) (base u : Url) : Prop where
  scheme : u.scheme = base.scheme
  authority : u.authority = base.authority
  path : exists path, base.path = .segments path ∧ u.StandsFor path e.segments
  parameters : Http.Form.pairs (u.query.getD "") = e.parameters

namespace Chore

/-- Content that is named in the path comes out of it as it was put in. -/
def Keeps : Chore -> Prop
  | pin .cluster id => Url.Whole id
  | unpin .cluster id => Url.Whole id
  | _ => True

theorem exists_segments (chore : Chore) :
    exists names name, chore.errand.segments = names ++ [name] ∧
      (forall n, n ∈ names -> isWord n = true) ∧ (names ++ [name]).head? ≠ some "" ∧
      (names = [] -> isWord name = true) ∧ (Url.Whole name ↔ chore.Keeps) := by
  have hword : forall names name, (names ++ [name]).all isWord = true ->
      (forall n, n ∈ names -> isWord n = true) ∧ (names ++ [name]).head? ≠ some "" ∧
        (names = [] -> isWord name = true) ∧ (Url.Whole name ↔ True) := by
    intro names name h
    have hall := List.all_eq_true.mp h
    have hname := hall name (by simp)
    refine ⟨fun n hn => hall n (List.mem_append_left _ hn), ?_, fun _ => hname,
      fun _ => trivial, fun _ => whole_of_isWord hname⟩
    intro hempty
    exact absurd (hall "" (List.mem_of_head? hempty)) (by decide)
  -- a cluster has the content itself as the last segment, and nothing is known about that
  have hpins : forall id, (forall n, n ∈ ["pins"] -> isWord n = true) ∧
      (["pins"] ++ [id]).head? ≠ some "" ∧ (["pins"] = [] -> isWord id = true) := by
    intro id
    refine ⟨by decide +kernel, ?_, ?_⟩
    · exact fun hempty => absurd (Option.some.inj hempty) (by decide)
    · intro hnil
      cases hnil
  cases chore with
  | version => exact ⟨["api", "v0"], "version", rfl, hword _ _ (by decide +kernel)⟩
  | add content pinned => exact ⟨["api", "v0"], "add", rfl, hword _ _ (by decide +kernel)⟩
  | cat id => exact ⟨["api", "v0"], "cat", rfl, hword _ _ (by decide +kernel)⟩
  | connectNode => exact ⟨["api", "v0"], "version", rfl, hword _ _ (by decide +kernel)⟩
  | connectCluster => exact ⟨[], "id", rfl, hword _ _ (by decide +kernel)⟩
  | connectService apiKey secret =>
      exact ⟨["data"], "testAuthentication", rfl, hword _ _ (by decide +kernel)⟩
  | pin s id =>
      cases s with
      | node => exact ⟨["api", "v0", "pin"], "add", rfl, hword _ _ (by decide +kernel)⟩
      | cluster => exact ⟨["pins"], id, rfl, (hpins id).1, (hpins id).2.1, (hpins id).2.2, Iff.rfl⟩
      | service hosts =>
          exact ⟨["pinning"], "pinHashToIPFS", rfl, hword _ _ (by decide +kernel)⟩
  | unpin s id =>
      cases s with
      | node => exact ⟨["api", "v0", "pin"], "rm", rfl, hword _ _ (by decide +kernel)⟩
      | cluster => exact ⟨["pins"], id, rfl, (hpins id).1, (hpins id).2.1, (hpins id).2.2, Iff.rfl⟩
      | service hosts =>
          exact ⟨["pinning"], "removePinFromIPFS", rfl, hword _ _ (by decide +kernel)⟩
  | list s =>
      cases s with
      | node => exact ⟨["api", "v0", "pin"], "ls", rfl, hword _ _ (by decide +kernel)⟩
      | cluster => exact ⟨[], "pins", rfl, hword _ _ (by decide +kernel)⟩
      | service hosts => exact ⟨["data"], "pinList", rfl, hword _ _ (by decide +kernel)⟩

/-- A call to an address that was read reaches its goal exactly if the address opens. -/
theorem reaches_iff (chore : Chore) {text : String} {base : Url}
    (hparse : Url.parse? text = some base)
    (hweb : base.scheme = "http" ∨ base.scheme = "https") :
    (exists u, chore.errand.url? base = some u ∧ chore.errand.Reaches base u) ↔
      base.Opens ∧ chore.Keeps := by
  rcases Url.web_of_parse? hparse hweb with ⟨a, front, last, h⟩
  rcases chore.exists_segments with ⟨names, name, hsegments, hnames, hfirst, hsingle, hkeeps⟩
  have hsteady : forall n, n ∈ names -> Url.Steady n := fun n hn => steady_of_isWord (hnames n hn)
  have hstands := h.standsFor_iff hsteady hfirst fun hnil => whole_of_isWord (hsingle hnil)
  have hpath : chore.errand.path = String.intercalate "/" (names ++ [name]) := by
    unfold Errand.path
    rw [hsegments]
  rw [← hkeeps]
  unfold Errand.url?
  rw [hpath]
  constructor
  · rintro ⟨u, hu, hreaches⟩
    rcases Option.map_eq_some_iff.mp hu with ⟨u', hu', rfl⟩
    rcases hreaches.path with ⟨path, hbase, hstandsFor⟩
    have hauthority := hreaches.authority
    -- parameters change the query alone, so the path is that of the joined URL
    rcases u'.withParameters_eq chore.errand.parameters with ⟨query, hquery⟩
    rw [hquery] at hauthority hstandsFor
    rw [hsegments] at hstandsFor
    rw [h.path, UrlPath.segments.injEq] at hbase
    subst hbase
    exact hstands.mp ⟨u', hu', hauthority, hstandsFor⟩
  · rintro ⟨hopens, hwhole⟩
    rcases hstands.mpr ⟨hopens, hwhole⟩ with ⟨u', hu', hauthority, hstandsFor⟩
    have hread := h.parse?_of_opens hopens hsteady hwhole
    rw [hu', Option.some.injEq] at hread
    have hquery : u'.query = none := by
      rw [hread]
      exact hopens.query
    have hscheme : u'.scheme = base.scheme := by
      rw [hread]
    have hparameters := Http.Form.pairs_withParameters hquery chore.errand.parameters
    rcases u'.withParameters_eq chore.errand.parameters with ⟨query, hwith⟩
    refine ⟨u'.withParameters chore.errand.parameters, by rw [hu']; rfl, ?_⟩
    rw [hwith] at hparameters ⊢
    refine ⟨hscheme, hauthority, ⟨front ++ [last], h.path, ?_⟩, hparameters⟩
    rw [hsegments]
    exact hstandsFor

end Chore

def clustered (cluster : String) : Environment :=
  fun name => if name == "IPFS_CLUSTER_REPLICAS" then some cluster else none

def configures (env : Environment) (base : Url) : Bool :=
  match Settings.ofEnvironment env with
  | .ok s => s.addresses.contains base
  | .error _ => false

theorem exists_of_configures {env : Environment} {base : Url} (h : configures env base = true) :
    exists s, Settings.ofEnvironment env = .ok s ∧ base ∈ s.addresses := by
  unfold configures at h
  split at h
  · next s hs => exact ⟨s, hs, List.contains_iff_mem.mp h⟩
  · cases h

def gateway (segments : List String) : Url :=
  ⟨"http", some ⟨"", "", .domain "node.test", some 9094⟩, .segments segments, none, none⟩

def gatewayCaller : Caller Unit :=
  ⟨.unreachable fun _ => pure (), gateway ["gateway", ""], .ofSeconds 1, []⟩

/--
A call to a configured address asks its errand and nothing else, and it asks wherever the errand
makes a request that can be sent.  The URL that it asks stands for the path of the address and
below it the segments of the errand, with the parameters of the errand, exactly if the address
opens and a content that is named in the path is kept.
-/
theorem calls_reach {env : Environment} {s : Settings} (hs : Settings.ofEnvironment env = .ok s)
    {base : Url} (hbase : base ∈ s.addresses)
    (hweb : base.scheme = "http" ∨ base.scheme = "https") (chore : Chore) :
    (forall (c : Caller W) w sent, c.base = base ->
      exists asked, (chore.run c.recorded (w, sent)).2.2 = sent ++ asked ∧
        (forall r, r ∈ asked -> chore.errand.Describes base r) ∧
          (asked ≠ [] ↔ chore.isCarried = true ∧
            exists r, chore.errand.Describes base r ∧ r.isSendable = true)) ∧
    ((exists u, chore.errand.url? base = some u ∧ chore.errand.Reaches base u) ↔
      base.Opens ∧ chore.Keeps) := by
  constructor
  · intro c w sent hc
    subst hc
    exact chore.run_recorded c w sent
  · rcases Settings.parsed_of_ofEnvironment hs hbase with ⟨text, hparse⟩
    exact chore.reaches_iff hparse hweb

theorem calls_reach_gateway :
    (exists s, Settings.ofEnvironment (clustered "http://node.test:9094/gateway/") = .ok s ∧
      gateway ["gateway", ""] ∈ s.addresses) ∧
    exists r, r ∈ ((Chore.pin .cluster "QmA").run gatewayCaller.recorded ((), [])).2.2 ∧
      (Chore.pin .cluster "QmA").errand.Reaches (gateway ["gateway", ""]) r.url := by
  have hsettings : exists s,
      Settings.ofEnvironment (clustered "http://node.test:9094/gateway/") = .ok s ∧
        gateway ["gateway", ""] ∈ s.addresses :=
    exists_of_configures (by decide +kernel)
  have hopens : (gateway ["gateway", ""]).Opens :=
    ⟨rfl, rfl, ⟨["gateway"], rfl⟩, ⟨_, rfl, by decide +kernel⟩⟩
  have hkeeps : (Chore.pin .cluster "QmA").Keeps := whole_of_isWord (by decide +kernel)
  have hsendable : ((Chore.pin .cluster "QmA").errand.request? gatewayCaller).any
      Http.Request.isSendable = true := by
    decide +kernel
  refine ⟨hsettings, ?_⟩
  rcases hsettings with ⟨s, hs, hbase⟩
  rcases calls_reach hs hbase (.inl rfl) (.pin .cluster "QmA") with ⟨hsent, hreaches⟩
  rcases hreaches.mpr ⟨hopens, hkeeps⟩ with ⟨u, hu, hgoal⟩
  rcases hsent gatewayCaller () [] rfl with ⟨asked, hasked, hdescribes, hsome⟩
  rcases List.exists_mem_of_ne_nil _
    (hsome.mpr ⟨rfl, (Errand.any_isSendable_iff _ gatewayCaller).mp hsendable⟩) with ⟨r, hr⟩
  refine ⟨r, ?_, ?_⟩
  · rw [hasked]
    exact hr
  · have hsame : some u = some r.url := hu.symm.trans (hdescribes r hr).url
    rw [← Option.some.inj hsame]
    exact hgoal

/-- Calls do not reach a gateway that is configured without a slash at its end. -/
theorem gateway_without_slash_missed :
    ¬ forall (env : Environment) (s : Settings), Settings.ofEnvironment env = .ok s ->
      forall base, base ∈ s.addresses -> (base.scheme = "http" ∨ base.scheme = "https") ->
        forall chore : Chore,
          exists u, chore.errand.url? base = some u ∧ chore.errand.Reaches base u := by
  intro h
  have hconfigured : configures (clustered "http://node.test:9094/gateway") (gateway ["gateway"]) =
      true := by
    decide +kernel
  rcases exists_of_configures hconfigured with ⟨s, hs, hbase⟩
  rcases Settings.parsed_of_ofEnvironment hs hbase with ⟨text, hparse⟩
  have hreaches := h _ s hs _ hbase (.inl rfl) (.pin .cluster "QmA")
  rcases ((Chore.pin .cluster "QmA").reaches_iff hparse (.inl rfl)).mp hreaches with ⟨hopens, _⟩
  rcases hopens.slash with ⟨front, hpath⟩
  have hlast := congrArg List.getLast? (UrlPath.segments.inj hpath)
  rw [List.getLast?_concat] at hlast
  exact absurd hlast (by decide)

end Ipfs
end ContentGateway
