import ContentGateway.Ipfs.Multiaddress

/-!
# The grammar of multiaddresses

The components of an address are read as items: a host with its protocol, a port behind `tcp`, or
a protocol that stands alone.  An address is accepted exactly if its components are items, among
them a host and a port.
-/

namespace ContentGateway
namespace Ipfs
namespace Multiaddress

/-!
# Steps of the scan
-/

/-- What a step makes of a protocol and the component behind it, and how many of them it takes. -/
def step (d : Draft) (protocol : String) (value : Option String) : Except Fault (Nat × Draft) :=
  if protocol == "ip6" then .ok (2, { d with host := value.map fun v => "[" ++ v ++ "]" })
  else if hostProtocols.contains protocol then .ok (2, { d with host := value })
  else if protocol == "tcp" then
    match value with
    | none => .error .missingPort
    | some value =>
        match Decimal.natural? Environment.largestPort value with
        | none => .error .invalidPort
        | some port => .ok (2, { d with port := some port })
  else if protocol == "https" || protocol == "tls" then .ok (1, { d with secure := true })
  else if protocol == "http" then .ok (1, d)
  else .error (.unsupported protocol)

theorem scan_cons (d : Draft) (protocol : String) (rest : List String) :
    scan d (protocol :: rest) =
      (step d protocol rest.head?).bind fun next =>
        scan next.2 ((protocol :: rest).drop next.1) := by
  rw [scan.eq_def]
  unfold step
  simp only
  cases hip6 : protocol == "ip6" with
  | true => cases rest <;> rfl
  | false =>
      cases hhost : hostProtocols.contains protocol with
      | true => cases rest <;> rfl
      | false =>
          cases htcp : protocol == "tcp" with
          | true =>
              cases rest with
              | nil => rfl
              | cons value rest =>
                  simp only [List.head?_cons]
                  cases Decimal.natural? Environment.largestPort value with
                  | none => rfl
                  | some port => rfl
          | false =>
              cases hsecure : protocol == "https" || protocol == "tls" with
              | true => rfl
              | false => cases protocol == "http" <;> rfl

/--
The scan as a loop over places.  `limit` bounds its steps; nothing comes out if it would go on
beyond them.
-/
def loop (parts : List String) : Nat -> Nat -> Draft -> Option (Except Fault Draft)
  | 0, place, d => if place < parts.length then none else some (.ok d)
  | limit + 1, place, d =>
      match parts[place]? with
      | none => some (.ok d)
      | some protocol =>
          match step d protocol parts[place + 1]? with
          | .error fault => some (.error fault)
          | .ok (count, d) => loop parts limit (place + count) d

theorem pos_of_step {d d' : Draft} {protocol : String} {value : Option String} {count : Nat}
    (h : step d protocol value = .ok (count, d')) : 1 ≤ count := by
  unfold step at h
  grind

theorem loop_eq (parts : List String) {limit place : Nat} (h : parts.length ≤ place + limit)
    (d : Draft) : loop parts limit place d = some (scan d (parts.drop place)) := by
  induction limit generalizing place d with
  | zero =>
      rw [Nat.add_zero] at h
      rw [loop, if_neg (Nat.not_lt.mpr h), List.drop_eq_nil_of_le h]
      rfl
  | succ limit ih =>
      rw [loop]
      by_cases hplace : place < parts.length
      · rw [List.getElem?_eq_getElem hplace, List.drop_eq_getElem_cons hplace, scan_cons,
          List.head?_drop]
        simp only
        cases hstep : step d parts[place] parts[place + 1]? with
        | error fault => rfl
        | ok next =>
            have hcount := pos_of_step hstep
            simp only [Except.bind]
            rw [ih (by omega), ← List.drop_eq_getElem_cons hplace, List.drop_drop]
      · rw [List.getElem?_eq_none (Nat.not_lt.mp hplace),
          List.drop_eq_nil_of_le (Nat.not_lt.mp hplace)]
        rfl

/-!
# Items
-/

/-- What an address is made of. -/
inductive Item where
  | host (protocol value : String)
  | port (value : String)
  | alone (protocol : String)

def hostNames : List String :=
  ["ip4", "dns", "dns4", "dns6", "ip6"]

def aloneNames : List String :=
  ["https", "tls", "http"]

namespace Item

def components : Item -> List String
  | host protocol value => [protocol, value]
  | port value => ["tcp", value]
  | alone protocol => [protocol]

def IsProper : Item -> Prop
  | host protocol _ => protocol ∈ hostNames
  | port value => (Decimal.natural? Environment.largestPort value).isSome = true
  | alone protocol => protocol ∈ aloneNames

instance : DecidablePred IsProper
  | host protocol _ => inferInstanceAs (Decidable (protocol ∈ hostNames))
  | port value =>
      inferInstanceAs (Decidable ((Decimal.natural? Environment.largestPort value).isSome = true))
  | alone protocol => inferInstanceAs (Decidable (protocol ∈ aloneNames))

def host? : Item -> Option String
  | host protocol value => some (if protocol = "ip6" then "[" ++ value ++ "]" else value)
  | _ => none

def port? : Item -> Option Nat
  | port value => Decimal.natural? Environment.largestPort value
  | _ => none

def isSecure : Item -> Bool
  | alone protocol => protocol == "https" || protocol == "tls"
  | _ => false

def addTo (d : Draft) (item : Item) : Draft :=
  ⟨item.host?.or d.host, item.port?.or d.port, d.secure || item.isSecure⟩

end Item

def lastHost? (items : List Item) : Option String :=
  (items.filterMap Item.host?).getLast?

def lastPort? (items : List Item) : Option Nat :=
  (items.filterMap Item.port?).getLast?

def scheme (items : List Item) : String :=
  if items.any Item.isSecure then "https" else "http"

/-- The components of a text are those of items. -/
structure Spells (items : List Item) (text : String) : Prop where
  parts : components text = items.flatMap Item.components
  proper : forall item, item ∈ items -> item.IsProper

/-!
# Reading items
-/

theorem step_host {protocol : String} (h : protocol ∈ hostNames) (d : Draft)
    (value : Option String) :
    step d protocol value = .ok (2, { d with host := value.map fun v =>
      if protocol = "ip6" then "[" ++ v ++ "]" else v }) := by
  simp only [hostNames, List.mem_cons, List.not_mem_nil, or_false] at h
  rcases h with rfl | rfl | rfl | rfl | rfl <;> simp [step, hostProtocols]

theorem step_alone {protocol : String} (h : protocol ∈ aloneNames) (d : Draft)
    (value : Option String) :
    step d protocol value = .ok (1, Item.addTo d (.alone protocol)) := by
  simp only [aloneNames, List.mem_cons, List.not_mem_nil, or_false] at h
  rcases h with rfl | rfl | rfl <;>
    simp [step, hostProtocols, Item.addTo, Item.host?, Item.port?, Item.isSecure]

theorem step_tcp (d : Draft) (value : String) :
    step d "tcp" (some value) =
      match Decimal.natural? Environment.largestPort value with
      | none => .error .invalidPort
      | some port => .ok (2, { d with port := some port }) := by
  simp [step, hostProtocols]

theorem scan_item {item : Item} (h : item.IsProper) (d : Draft) (rest : List String) :
    scan d (item.components ++ rest) = scan (Item.addTo d item) rest := by
  cases item with
  | host protocol value =>
      rw [Item.components, List.cons_append, List.cons_append, List.nil_append, scan_cons,
        List.head?_cons, step_host h]
      simp [Except.bind, Item.addTo, Item.host?, Item.port?, Item.isSecure]
  | port value =>
      rcases Option.isSome_iff_exists.mp h with ⟨number, hnumber⟩
      rw [Item.components, List.cons_append, List.cons_append, List.nil_append, scan_cons,
        List.head?_cons, step_tcp, hnumber]
      simp [Except.bind, Item.addTo, Item.host?, Item.port?, Item.isSecure, hnumber]
  | alone protocol =>
      rw [Item.components, List.singleton_append, scan_cons, step_alone h]
      rfl

theorem scan_items {items : List Item} (h : forall item, item ∈ items -> item.IsProper)
    (d : Draft) (rest : List String) :
    scan d (items.flatMap Item.components ++ rest) = scan (items.foldl Item.addTo d) rest := by
  induction items generalizing d with
  | nil => rfl
  | cons item items ih =>
      rw [List.flatMap_cons, List.append_assoc, scan_item (h item List.mem_cons_self),
        ih fun i hi => h i (List.mem_cons_of_mem _ hi)]
      rfl

theorem getLast?_filterMap_cons {α β : Type} (f : α -> Option β) (a : α) (list : List α)
    (usual : Option β) :
    ((a :: list).filterMap f).getLast?.or usual = (list.filterMap f).getLast?.or ((f a).or usual) := by
  cases hf : f a with
  | none =>
      rw [List.filterMap_cons_none hf]
      rfl
  | some b =>
      rw [List.filterMap_cons_some hf, List.getLast?_cons]
      cases (list.filterMap f).getLast? with
      | none => rfl
      | some last => rfl

theorem draft_items (items : List Item) (d : Draft) :
    items.foldl Item.addTo d =
      ⟨(lastHost? items).or d.host, (lastPort? items).or d.port,
        d.secure || items.any Item.isSecure⟩ := by
  induction items generalizing d with
  | nil => simp [lastHost?, lastPort?]
  | cons item items ih =>
      rw [List.foldl_cons, ih]
      unfold lastHost? lastPort?
      rw [getLast?_filterMap_cons, getLast?_filterMap_cons, List.any_cons, Item.addTo,
        Bool.or_assoc]

/-!
# Components that are no items
-/

/-- No item stands at the front of components, and this is what is wrong. -/
inductive Stuck : List String -> Fault -> Prop where
  | host {protocol : String} : protocol ∈ hostNames -> Stuck [protocol] .missingHost
  | port : Stuck ["tcp"] .missingPort
  | number {value : String} {rest : List String} :
      Decimal.natural? Environment.largestPort value = none ->
      Stuck ("tcp" :: value :: rest) .invalidPort
  | protocol {protocol : String} {rest : List String} :
      protocol ∉ hostNames ++ "tcp" :: aloneNames ->
      Stuck (protocol :: rest) (.unsupported protocol)

theorem item_or_stuck (protocol : String) (rest : List String) :
    (exists (item : Item) (after : List String), item.IsProper ∧
      protocol :: rest = item.components ++ after) ∨
    exists fault, Stuck (protocol :: rest) fault := by
  by_cases hhost : protocol ∈ hostNames
  · cases rest with
    | nil => exact .inr ⟨_, .host hhost⟩
    | cons value rest => exact .inl ⟨.host protocol value, rest, hhost, rfl⟩
  by_cases htcp : protocol = "tcp"
  · subst htcp
    cases rest with
    | nil => exact .inr ⟨_, .port⟩
    | cons value rest =>
        cases hnumber : Decimal.natural? Environment.largestPort value with
        | none => exact .inr ⟨_, .number hnumber⟩
        | some number =>
            exact .inl ⟨.port value, rest, Option.isSome_iff_exists.mpr ⟨number, hnumber⟩, rfl⟩
  by_cases halone : protocol ∈ aloneNames
  · exact .inl ⟨.alone protocol, rest, halone, rfl⟩
  · refine .inr ⟨_, .protocol ?_⟩
    simp [hhost, htcp, halone]

/-- Components are items up to a place where no item stands. -/
theorem exists_items (parts : List String) :
    exists (items : List Item) (rest : List String),
      parts = items.flatMap Item.components ++ rest ∧
      (forall item, item ∈ items -> item.IsProper) ∧
      (rest = [] ∨ exists fault, Stuck rest fault) := by
  induction hlength : parts.length using Nat.strongRecOn generalizing parts with
  | ind length ih =>
      cases parts with
      | nil => exact ⟨[], [], rfl, by simp, .inl rfl⟩
      | cons protocol rest =>
          rcases item_or_stuck protocol rest with ⟨item, after, hproper, hparts⟩ | hstuck
          · have hshorter : after.length < length := by
              rw [← hlength, hparts, List.length_append]
              cases item <;> simp [Item.components]
            rcases ih _ hshorter after rfl with ⟨items, behind, hafter, hitems, hend⟩
            refine ⟨item :: items, behind, ?_, ?_, hend⟩
            · rw [hparts, hafter, List.flatMap_cons, List.append_assoc]
            · simpa using ⟨hproper, hitems⟩
          · exact ⟨[], _, rfl, by simp, .inr hstuck⟩

/-!
# Addresses
-/

def finish (d : Draft) : Except Fault String :=
  match d.host, d.port with
  | none, _ => .error .missingHost
  | some _, none => .error .missingPort
  | some host, some port =>
      .ok ((if d.secure then "https" else "http") ++ "://" ++ host ++ ":" ++ toString port)

theorem urlText_eq (text : String) :
    urlText text = (scan ⟨none, none, false⟩ (components text)).bind finish := by
  unfold urlText
  cases scan ⟨none, none, false⟩ (components text) with
  | error fault => rfl
  | ok d =>
      rcases d with ⟨host, port, secure⟩
      cases host with
      | none => rfl
      | some host => cases port <;> rfl

/-- Whatever has been read before, nothing comes of an address that gets stuck. -/
theorem finish_stuck {parts : List String} {fault : Fault} (h : Stuck parts fault) (d : Draft) :
    (scan d parts).bind finish = .error fault := by
  cases h with
  | host hprotocol =>
      rw [scan_cons, step_host hprotocol]
      rfl
  | port =>
      rw [scan_cons]
      simp [step, hostProtocols, Except.bind]
  | number hnumber =>
      rw [scan_cons, List.head?_cons, step_tcp, hnumber]
      rfl
  | @protocol protocol rest hprotocol =>
      have hstep : step d protocol rest.head? = .error (.unsupported protocol) := by
        simp only [hostNames, aloneNames, List.mem_append, List.mem_cons, List.not_mem_nil,
          or_false, not_or] at hprotocol
        simp [step, hostProtocols, hprotocol]
      rw [scan_cons, hstep]
      rfl

theorem urlText_items {items : List Item} {text : String} (h : Spells items text) :
    urlText text =
      finish ⟨lastHost? items, lastPort? items, items.any Item.isSecure⟩ := by
  have hscan := scan_items h.proper ⟨none, none, false⟩ []
  rw [List.append_nil, ← h.parts, draft_items] at hscan
  rw [urlText_eq, hscan]
  simp [scan, Except.bind]

/-- The items of an address, the host and the port that count. -/
structure Complete (items : List Item) (host : String) (port : Nat) (text : String) : Prop
    extends Spells items text where
  host : lastHost? items = some host
  port : lastPort? items = some port

theorem urlText_complete {items : List Item} {host : String} {port : Nat} {text : String}
    (h : Complete items host port text) :
    urlText text = .ok (scheme items ++ "://" ++ host ++ ":" ++ toString port) := by
  rw [urlText_items h.toSpells, h.host, h.port]
  rfl

theorem urlText_incomplete {text : String}
    (h : ¬ exists items host port, Complete items host port text) :
    exists fault, urlText text = .error fault := by
  rcases exists_items (components text) with ⟨items, rest, hparts, hproper, rfl | ⟨fault, hstuck⟩⟩
  · rw [List.append_nil] at hparts
    have hspells : Spells items text := ⟨hparts, hproper⟩
    rw [urlText_items hspells]
    cases hhost : lastHost? items with
    | none => exact ⟨_, rfl⟩
    | some host =>
        cases hport : lastPort? items with
        | none => exact ⟨_, rfl⟩
        | some port => exact absurd ⟨items, host, port, hspells, hhost, hport⟩ h
  · refine ⟨fault, ?_⟩
    rw [urlText_eq, hparts, scan_items hproper]
    exact finish_stuck hstuck _

end Multiaddress

def constructed (address url : String) : Except ConfigError Url :=
  match Url.parse? url with
  | some url => .ok url
  | none => .error (.invalidUrl address withheld)

theorem constructed_of_urlText {text url : String} (h : Multiaddress.urlText text = .ok url) :
    urlOfMultiaddress text = constructed text url := by
  unfold urlOfMultiaddress
  rw [h]
  rfl

/--
A URL is constructed if and only if the components of an address are items with a host and a port
among them.  It has the last host, the last port and the scheme that the items ask for; every
other address is reported as invalid.  The scan takes at most one step for each component.
-/
theorem urlOfMultiaddress_grammar (text : String) :
    (forall items host port, Multiaddress.Complete items host port text ->
      urlOfMultiaddress text =
        constructed text
          (Multiaddress.scheme items ++ "://" ++ host ++ ":" ++ toString port)) ∧
    ((¬ exists items host port, Multiaddress.Complete items host port text) ->
      exists fault, urlOfMultiaddress text = .error (.invalidMultiaddress text fault)) ∧
    Multiaddress.loop (Multiaddress.components text) (Multiaddress.components text).length 0
        ⟨none, none, false⟩ =
      some (Multiaddress.scan ⟨none, none, false⟩ (Multiaddress.components text)) := by
  refine ⟨?_, ?_, ?_⟩
  · intro items host port h
    exact constructed_of_urlText (Multiaddress.urlText_complete h)
  · intro h
    rcases Multiaddress.urlText_incomplete h with ⟨fault, hfault⟩
    refine ⟨fault.reason, ?_⟩
    unfold urlOfMultiaddress
    rw [hfault]
  · rw [Multiaddress.loop_eq _ (Nat.le_add_left _ _), List.drop_zero]

theorem urlOfMultiaddress_grammar_hostNamedTcp :
    Multiaddress.Complete
        [.host "dns" "tcp", .port "80", .alone "tls", .host "ip6" "::1", .port "4001"]
        "[::1]" 4001 " /dns/tcp/tcp/80/tls//ip6/::1/tcp/4001/" ∧
      urlOfMultiaddress " /dns/tcp/tcp/80/tls//ip6/::1/tcp/4001/" =
        constructed " /dns/tcp/tcp/80/tls//ip6/::1/tcp/4001/" "https://[::1]:4001" ∧
      (¬ exists items host port, Multiaddress.Complete items host port "/ip4/127.0.0.1/tcp") ∧
      exists fault, urlOfMultiaddress "/ip4/127.0.0.1/tcp" =
        .error (.invalidMultiaddress "/ip4/127.0.0.1/tcp" fault) := by
  have hcomplete : Multiaddress.Complete
      [.host "dns" "tcp", .port "80", .alone "tls", .host "ip6" "::1", .port "4001"]
      "[::1]" 4001 " /dns/tcp/tcp/80/tls//ip6/::1/tcp/4001/" := by
    exact ⟨⟨by decide +kernel, by decide +kernel⟩, by decide +kernel, by decide +kernel⟩
  have hnone : ¬ exists items host port,
      Multiaddress.Complete items host port "/ip4/127.0.0.1/tcp" := by
    rintro ⟨items, host, port, h⟩
    have hparts : Multiaddress.components "/ip4/127.0.0.1/tcp" =
        (Multiaddress.Item.host "ip4" "127.0.0.1").components ++ ["tcp"] := by
      decide +kernel
    have hfault : Multiaddress.urlText "/ip4/127.0.0.1/tcp" = .error .missingPort := by
      rw [Multiaddress.urlText_eq, hparts, Multiaddress.scan_item (by decide)]
      exact Multiaddress.finish_stuck .port _
    rw [Multiaddress.urlText_complete h] at hfault
    cases hfault
  have hread := (urlOfMultiaddress_grammar _).1 _ _ _ hcomplete
  have hurl : Multiaddress.scheme
      [.host "dns" "tcp", .port "80", .alone "tls", .host "ip6" "::1", .port "4001"] ++ "://" ++
        "[::1]" ++ ":" ++ toString 4001 = "https://[::1]:4001" := by
    decide +kernel
  rw [hurl] at hread
  exact ⟨hcomplete, hread, hnone, (urlOfMultiaddress_grammar _).2.1 hnone⟩

end Ipfs
end ContentGateway
