import ContentGateway.Proofs.DomainName
import ContentGateway.Proofs.Text.Hex
import ContentGateway.Proofs.Url.Percent
import ContentGateway.Url.Reading

/-!
# Authorities read back

The written form of an authority that was read is read as the same user, the same port and
whatever the written form of its host is read as.
-/

namespace ContentGateway

/-- A character that is never dropped where a URL is read and begins neither query nor fragment. -/
def Url.isFirm (c : Char) : Bool :=
  0x20 < c.toNat && !"?#".toList.contains c

/-!
# Hosts
-/

namespace Host

def isPlain (c : Char) : Bool :=
  Url.isFirm c && !Url.isSlash c && c != '@'

/-- A host as it is written: it ends where its port begins, and nothing in it counts as an end. -/
structure Placed (host : Host) : Prop where
  filled : host.display.toList ≠ []
  plain : forall c, c ∈ host.display.toList -> isPlain c = true
  spans : forall rest, (rest = [] ∨ rest.head? = some ':') ->
    Url.spanHost false (host.display.toList ++ rest) = (host.display.toList, rest)

theorem spanHost_rest {rest : List Char} (h : rest = [] ∨ rest.head? = some ':') :
    Url.spanHost false rest = ([], rest) := by
  rcases h with rfl | h
  · rfl
  · rcases List.head?_eq_some_iff.mp h with ⟨after, rfl⟩
    rfl

theorem spanHost_append {text : List Char}
    (h : forall c, c ∈ text -> c ≠ ':' ∧ c ≠ '[' ∧ c ≠ ']') {rest : List Char}
    (hrest : rest = [] ∨ rest.head? = some ':') :
    Url.spanHost false (text ++ rest) = (text, rest) := by
  induction text with
  | nil => exact spanHost_rest hrest
  | cons c text ih =>
      rcases h c List.mem_cons_self with ⟨hcolon, hopen, hclose⟩
      have htext := ih fun d hd => h d (List.mem_cons_of_mem _ hd)
      rw [List.cons_append, Url.spanHost]
      simp [hcolon, hopen, hclose, htext]

theorem spanHost_inside {text : List Char} (h : forall c, c ∈ text -> c ≠ '[' ∧ c ≠ ']')
    {rest : List Char} (hrest : rest = [] ∨ rest.head? = some ':') :
    Url.spanHost true (text ++ ']' :: rest) = (text ++ [']'], rest) := by
  induction text with
  | nil =>
      rw [List.nil_append, Url.spanHost]
      simp [spanHost_rest hrest]
  | cons c text ih =>
      rcases h c List.mem_cons_self with ⟨hopen, hclose⟩
      have htext := ih fun d hd => h d (List.mem_cons_of_mem _ hd)
      rw [List.cons_append, Url.spanHost]
      simp [hopen, hclose, htext]

theorem isPlain_of_not_forbidden {c : Char} (h : DomainName.isForbidden c = false) :
    isPlain c = true ∧ c ≠ ':' ∧ c ≠ '[' ∧ c ≠ ']' := by
  by_cases hc : c.toNat < 128
  · exact of_ascii (P := fun c => DomainName.isForbidden c = false ->
      isPlain c = true ∧ c ≠ ':' ∧ c ≠ '[' ∧ c ≠ ']') (by decide +kernel) hc h
  · have hne : forall d : Char, d.toNat < 128 -> c ≠ d := by
      rintro d hd rfl
      exact hc hd
    refine ⟨?_, hne ':' (by decide), hne '[' (by decide), hne ']' (by decide)⟩
    have hvisible : 0x20 < c.toNat := by
      omega
    simp [isPlain, Url.isFirm, Url.isSlash, hvisible, hne '/' (by decide), hne '\\' (by decide),
      hne '?' (by decide), hne '#' (by decide), hne '@' (by decide)]

theorem placed_domain {name : List Char} (hname : name ≠ [])
    (h : forall c, c ∈ name -> DomainName.isForbidden c = false) :
    (Host.domain (String.ofList name)).Placed := by
  have hdisplay : (Host.domain (String.ofList name)).display.toList = name :=
    String.toList_ofList
  refine ⟨?_, ?_, ?_⟩
  · rw [hdisplay]
    exact hname
  · intro c hc
    rw [hdisplay] at hc
    exact (isPlain_of_not_forbidden (h c hc)).1
  · intro rest hrest
    rw [hdisplay]
    exact spanHost_append (fun c hc => (isPlain_of_not_forbidden (h c hc)).2) hrest

theorem digit_of_mem_toDigits {base n : Nat} (hone : 1 < base) (hbase : base ≤ 16) {c : Char}
    (h : c ∈ Nat.toDigits base n) : exists d, d < 16 ∧ c = Nat.digitChar d := by
  induction n using Nat.strongRecOn with
  | ind n ih =>
      rw [Nat.toDigits_eq_if hone] at h
      split at h
      · next hsmall => exact ⟨n, by omega, List.mem_singleton.mp h⟩
      · rcases List.mem_append.mp h with hfront | hlast
        · exact ih _ (Nat.div_lt_self (by omega) hone) hfront
        · have hrem := Nat.mod_lt n (by omega : 0 < base)
          exact ⟨n % base, by omega, List.mem_singleton.mp hlast⟩

theorem mem_intercalate_digits (sep : Char) {c : Char} {texts : List String}
    (hdigits : forall text, text ∈ texts -> forall c, c ∈ text.toList ->
      exists d, d < 16 ∧ c = Nat.digitChar d)
    (h : c ∈ (String.intercalate (String.singleton sep) texts).toList) :
    c = sep ∨ exists d, d < 16 ∧ c = Nat.digitChar d := by
  rw [String.toList_intercalate, String.toList_singleton] at h
  rcases mem_flatten_intersperse h with hc | ⟨chars, hchars, hc⟩
  · exact .inl hc
  · rcases List.mem_map.mp hchars with ⟨text, htext, rfl⟩
    exact .inr (hdigits text htext c hc)

theorem of_digit_or {P : Char -> Prop} {sep : Char} (hsep : P sep)
    (hdigit : forall d, d < 16 -> P (Nat.digitChar d)) {c : Char}
    (h : c = sep ∨ exists d, d < 16 ∧ c = Nat.digitChar d) : P c := by
  rcases h with rfl | ⟨d, hd, rfl⟩
  · exact hsep
  · exact hdigit d hd

theorem digitChar_plain {d : Nat} (h : d < 16) :
    isPlain (Nat.digitChar d) = true ∧ Nat.digitChar d ≠ ':' ∧ Nat.digitChar d ≠ '[' ∧
      Nat.digitChar d ≠ ']' := by
  revert d
  decide

theorem mem_ipv4Text {address : Nat} {c : Char} (h : c ∈ (ipv4Text address).toList) :
    c = '.' ∨ exists d, d < 16 ∧ c = Nat.digitChar d := by
  refine mem_intercalate_digits '.' ?_ h
  intro text htext c hc
  rcases List.mem_map.mp htext with ⟨unit, _, rfl⟩
  rw [Nat.toString_eq_repr, Nat.toList_repr] at hc
  exact digit_of_mem_toDigits (by decide) (by decide) hc

theorem placed_ipv4 (address : Nat) : (Host.ipv4 address).Placed := by
  have hplain : forall c, c ∈ (Host.ipv4 address).display.toList ->
      isPlain c = true ∧ c ≠ ':' ∧ c ≠ '[' ∧ c ≠ ']' := by
    intro c hc
    rcases mem_ipv4Text hc with rfl | ⟨d, hd, rfl⟩
    · decide
    · exact digitChar_plain hd
  refine ⟨?_, fun c hc => (hplain c hc).1, ?_⟩
  · show (ipv4Text address).toList ≠ []
    unfold ipv4Text
    rw [String.toList_intercalate]
    simp
  · intro rest hrest
    exact spanHost_append (fun c hc => (hplain c hc).2) hrest

theorem mem_ipv6Text {pieces : List Nat} {c : Char} (h : c ∈ (ipv6Text pieces).toList) :
    c = ':' ∨ exists d, d < 16 ∧ c = Nat.digitChar d := by
  have hwritten : forall ps : List Nat,
      c ∈ (String.intercalate ":" (ps.map fun p => String.ofList (Nat.toDigits 16 p))).toList ->
        c = ':' ∨ exists d, d < 16 ∧ c = Nat.digitChar d := by
    intro ps hc
    refine mem_intercalate_digits ':' ?_ hc
    intro text htext c hc
    rcases List.mem_map.mp htext with ⟨p, _, rfl⟩
    rw [String.toList_ofList] at hc
    exact digit_of_mem_toDigits (by decide) (by decide) hc
  unfold ipv6Text at h
  simp only at h
  split at h
  · exact hwritten _ h
  · rw [String.toList_append, String.toList_append] at h
    rcases List.mem_append.mp h with hfront | hback
    · rcases List.mem_append.mp hfront with hfront | hgap
      · exact hwritten _ hfront
      · exact .inl (by simpa using hgap)
    · exact hwritten _ hback

theorem toList_display_ipv6 (pieces : List Nat) :
    (Host.ipv6 pieces).display.toList = '[' :: ((ipv6Text pieces).toList ++ [']']) := by
  show ("[" ++ ipv6Text pieces ++ "]").toList = _
  rw [String.toList_append, String.toList_append]
  rfl

theorem placed_ipv6 (pieces : List Nat) : (Host.ipv6 pieces).Placed := by
  have hdisplay := toList_display_ipv6 pieces
  refine ⟨?_, ?_, ?_⟩
  · rw [hdisplay]
    exact List.cons_ne_nil _ _
  · intro c hc
    rw [hdisplay] at hc
    rcases List.mem_cons.mp hc with rfl | hc
    · decide
    rcases List.mem_append.mp hc with hc | hc
    · rcases mem_ipv6Text hc with rfl | ⟨d, hd, rfl⟩
      · decide
      · exact (digitChar_plain hd).1
    · rw [List.mem_singleton.mp hc]
      decide
  · intro rest hrest
    have hinside : forall c, c ∈ (ipv6Text pieces).toList -> c ≠ '[' ∧ c ≠ ']' := by
      intro c hc
      rcases mem_ipv6Text hc with rfl | ⟨d, hd, rfl⟩
      · decide
      · exact (digitChar_plain hd).2.2
    rw [hdisplay, List.cons_append, List.append_assoc, List.singleton_append, Url.spanHost]
    simp [spanHost_inside hinside hrest]

/-- What is read as the host of a special URL has a place in one. -/
theorem placed_of_ofSpecial? {text : List Char} {host : Host} (h : ofSpecial? text = some host) :
    host.Placed := by
  unfold ofSpecial? at h
  split at h
  · rcases Option.map_eq_some_iff.mp h with ⟨pieces, _, rfl⟩
    exact placed_ipv6 pieces
  · cases hdecoded : Utf8.decode? (Percent.decode text) with
    | none =>
        rw [hdecoded] at h
        cases h
    | some decoded =>
        rw [hdecoded, Option.bind_eq_bind, Option.bind_some] at h
        cases hname : DomainName.written? decoded with
        | none =>
            rw [hname] at h
            cases h
        | some name =>
            rw [hname, Option.bind_some] at h
            split at h
            · cases h
            · next hsome =>
                split at h
                · rcases Option.map_eq_some_iff.mp h with ⟨address, _, rfl⟩
                  exact placed_ipv4 address
                · cases h
                  exact placed_domain (by simpa using hsome)
                    (DomainName.not_forbidden_written? hname)

theorem Placed.ne_nowhere {host : Host} (h : host.Placed) : (host == .domain "") = false := by
  rw [beq_eq_false_iff_ne]
  rintro rfl
  exact h.filled rfl

end Host

/-!
# Users and ports
-/

namespace Authority

/-- An authority of a special URL as it is kept. -/
structure Placed (scheme : String) (a : Authority) : Prop where
  username : forall c, c ∈ a.username.toList -> Percent.inUserInfo c = false
  password : forall c, c ∈ a.password.toList -> Percent.inUserInfo c = false
  host : a.host.Placed
  port : forall p, a.port = some p -> p ≤ 65535 ∧ Url.usualPort? scheme ≠ some p

def portText (port : Option Nat) : List Char :=
  ((port.map fun p => ":" ++ toString p).getD "").toList

theorem portText_some (p : Nat) : portText (some p) = ':' :: Nat.toDigits 10 p := by
  show (":" ++ toString p).toList = _
  rw [String.toList_append, Nat.toString_eq_repr, Nat.toList_repr]
  rfl

theorem portText_begins (port : Option Nat) :
    portText port = [] ∨ (portText port).head? = some ':' := by
  cases port with
  | none => exact .inl rfl
  | some p =>
      right
      rw [portText_some]
      rfl

theorem portOf?_toDigits {scheme : String} {port : Nat} (h : port ≤ 65535) :
    Url.portOf? scheme (portText (some port)) =
      some (if Url.usualPort? scheme == some port then none else some port, []) := by
  have hdigits : forall c, c ∈ Nat.toDigits 10 port -> c.isDigit = true :=
    fun c hc => Nat.isDigit_of_mem_toDigits (by decide) (by decide) hc
  have htake : (Nat.toDigits 10 port).takeWhile Char.isDigit = Nat.toDigits 10 port :=
    List.takeWhile_eq_self_iff.mpr hdigits
  have hdrop : (Nat.toDigits 10 port).dropWhile Char.isDigit = [] :=
    List.dropWhile_eq_nil_iff.mpr hdigits
  have hsome : (Nat.toDigits 10 port).isEmpty = false := by
    simp [Nat.toDigits_ne_nil]
  rw [portText_some, Url.portOf?]
  simp only [htake, hdrop, hsome, inBase?_toDigits (show 1 < 10 by decide) (by decide)]
  simp [Nat.not_lt.mpr h]

theorem portOf?_portText {scheme : String} {port : Option Nat}
    (h : forall p, port = some p -> p ≤ 65535 ∧ Url.usualPort? scheme ≠ some p) :
    Url.portOf? scheme (portText port) = some (port, []) := by
  cases port with
  | none => rfl
  | some p =>
      rcases h p rfl with ⟨hbound, hunusual⟩
      rw [portOf?_toDigits hbound, beq_eq_false_iff_ne.mpr hunusual, if_neg Bool.false_ne_true]

theorem placed_portOf? {scheme : String} {text rest : List Char} {port : Option Nat}
    (h : Url.portOf? scheme text = some (port, rest)) :
    forall p, port = some p -> p ≤ 65535 ∧ Url.usualPort? scheme ≠ some p := by
  rintro p rfl
  unfold Url.portOf? at h
  split at h
  · simp only at h
    split at h
    · cases h
    split at h
    · cases h
    · cases hvalue : inBase? 10 (List.takeWhile Char.isDigit _) with
      | none =>
          rw [hvalue] at h
          cases h
      | some value =>
          rw [hvalue, Option.bind_eq_bind, Option.bind_some] at h
          split at h
          · cases h
          · next hbound =>
              split at h
              · cases h
              · next hunusual =>
                  cases h
                  exact ⟨Nat.not_lt.mp hbound, by simpa using hunusual⟩
  · cases h

theorem encodeUser_of_kept {text : String}
    (h : forall c, c ∈ text.toList -> Percent.inUserInfo c = false) :
    Url.encodeUser text.toList = text := by
  unfold Url.encodeUser
  rw [Percent.encode_eq_self h, String.ofList_toList]

theorem kept_encodeUser (text : List Char) :
    forall c, c ∈ (Url.encodeUser text).toList -> Percent.inUserInfo c = false := by
  intro c hc
  unfold Url.encodeUser at hc
  rw [String.toList_ofList] at hc
  exact Percent.sparing_inUserInfo.kept_of_mem_encode hc

theorem exists_of_hostPort? {scheme : String} (hscheme : Url.isSpecial scheme = true)
    {text rest : List Char} {host : Host} {port : Option Nat}
    (h : Url.hostPort? scheme text = some ((host, port), rest)) :
    Host.ofSpecial? (Url.spanHost false text).1 = some host ∧
      Url.portOf? scheme (Url.spanHost false text).2 = some (port, rest) := by
  unfold Url.hostPort? at h
  simp only [hscheme, if_true, Bool.true_or, Bool.and_true] at h
  split at h
  · cases h
  · rcases Option.bind_eq_some_iff.mp h with ⟨host', hhost, h⟩
    rcases Option.bind_eq_some_iff.mp h with ⟨port', hport, h⟩
    cases h
    exact ⟨hhost, hport⟩

theorem placed_of_authority? {scheme : String} (hscheme : Url.isSpecial scheme = true)
    {text rest : List Char} {a : Authority} (h : Url.authority? scheme text = some (a, rest)) :
    a.Placed scheme := by
  unfold Url.authority? at h
  rcases Option.bind_eq_some_iff.mp h with ⟨⟨⟨host, port⟩, behind⟩, hplace, h⟩
  rcases exists_of_hostPort? hscheme hplace with ⟨hhost, hport⟩
  have hread := (Option.ite_none_left_eq_some.mp h).2
  cases hread
  exact ⟨kept_encodeUser _, kept_encodeUser _, Host.placed_of_ofSpecial? hhost,
    placed_portOf? hport⟩

/-!
# Reading what is written
-/

def userText (a : Authority) : List Char :=
  a.username.toList ++ if a.password.isEmpty then [] else ':' :: a.password.toList

theorem toList_display (a : Authority) :
    a.display.toList =
      (if a.username.isEmpty && a.password.isEmpty then [] else a.userText ++ ['@']) ++
        (a.host.display.toList ++ portText a.port) := by
  have hcredentials : a.credentials.toList =
      if a.username.isEmpty && a.password.isEmpty then [] else a.userText ++ ['@'] := by
    unfold credentials userText
    split
    · rfl
    · rw [String.toList_append, String.toList_append]
      cases a.password.isEmpty with
      | true => rfl
      | false =>
          simp only [Bool.false_eq_true, if_false, String.toList_append]
          rfl
  unfold display
  rw [String.toList_append, String.toList_append, hcredentials, List.append_assoc]
  rfl

theorem hostPort?_host {scheme : String} (hscheme : Url.isSpecial scheme = true) {host : Host}
    (h : host.Placed) {written port : Option Nat}
    (hport : Url.portOf? scheme (portText written) = some (port, [])) :
    Url.hostPort? scheme (host.display.toList ++ portText written) =
      (Host.ofSpecial? host.display.toList).map fun host => ((host, port), []) := by
  have hfilled : host.display.toList.isEmpty = false := by
    rw [List.isEmpty_eq_false_iff]
    exact h.filled
  unfold Url.hostPort?
  rw [h.spans _ (portText_begins written)]
  simp only [hscheme, hfilled, Bool.false_and, Bool.false_eq_true, if_false, if_true]
  cases Host.ofSpecial? host.display.toList with
  | none => rfl
  | some host =>
      simp only [Option.bind_eq_bind, Option.bind_some, hport]
      rfl

theorem not_at_of_kept {text : String}
    (h : forall c, c ∈ text.toList -> Percent.inUserInfo c = false) :
    ':' ∉ text.toList ∧ '@' ∉ text.toList := by
  constructor
  · intro hc
    exact absurd (h _ hc) (by decide)
  · intro hc
    exact absurd (h _ hc) (by decide)

theorem digit_of_mem_portText {port : Option Nat} {c : Char} (h : c ∈ portText port) :
    c = ':' ∨ exists d, d < 16 ∧ c = Nat.digitChar d := by
  cases port with
  | none => cases h
  | some p =>
      rw [portText_some] at h
      rcases List.mem_cons.mp h with hc | hdigit
      · exact .inl hc
      · exact .inr (Host.digit_of_mem_toDigits (by decide) (by decide) hdigit)

theorem plain_place {host : Host} (h : host.Placed) (port : Option Nat) :
    forall c, c ∈ host.display.toList ++ portText port -> Host.isPlain c = true := by
  intro c hc
  rcases List.mem_append.mp hc with hhost | hport
  · exact h.plain c hhost
  · exact Host.of_digit_or (P := fun c => Host.isPlain c = true) (by decide)
      (fun _ hd => (Host.digitChar_plain hd).1) (digit_of_mem_portText hport)

theorem no_at_in_place {host : Host} (h : host.Placed) (port : Option Nat) :
    '@' ∉ host.display.toList ++ portText port :=
  fun hc => absurd (plain_place h port _ hc) (by decide)

theorem firm_of_plain {c : Char} (h : Host.isPlain c = true) :
    Url.isFirm c = true ∧ Url.isSlash c = false := by
  unfold Host.isPlain at h
  simp only [Bool.and_eq_true, Bool.not_eq_true'] at h
  exact h.1

theorem firm_of_kept {c : Char} (h : Percent.inUserInfo c = false) :
    Url.isFirm c = true ∧ Url.isSlash c = false := by
  have hc := Percent.ascii_of_not_inPath (Percent.not_inPath_of_not_inUserInfo h)
  exact of_ascii (P := fun c => Percent.inUserInfo c = false ->
    Url.isFirm c = true ∧ Url.isSlash c = false) (by decide +kernel) hc h

theorem Placed.firm {scheme : String} {a : Authority} (h : a.Placed scheme) :
    forall c, c ∈ a.display.toList -> Url.isFirm c = true ∧ Url.isSlash c = false := by
  intro c hc
  rw [a.toList_display] at hc
  rcases List.mem_append.mp hc with huser | hplace
  · split at huser
    · cases huser
    · rcases List.mem_append.mp huser with huser | hat
      · unfold userText at huser
        rcases List.mem_append.mp huser with hname | hpassword
        · exact firm_of_kept (h.username c hname)
        · split at hpassword
          · cases hpassword
          · rcases List.mem_cons.mp hpassword with rfl | hpassword
            · decide
            · exact firm_of_kept (h.password c hpassword)
      · rw [List.mem_singleton.mp hat]
        decide
  · exact firm_of_plain (plain_place h.host a.port c hplace)

theorem authority?_display {scheme : String} (hscheme : Url.isSpecial scheme = true)
    {a : Authority} (h : a.Placed scheme) :
    Url.authority? scheme a.display.toList =
      (Host.ofSpecial? a.host.display.toList).map fun host => ({ a with host := host }, []) := by
  have hplace := no_at_in_place h.host a.port
  have hsplit : (splitLast '@' a.display.toList).getD ([], a.display.toList) =
      (if a.username.isEmpty && a.password.isEmpty then [] else a.userText,
        a.host.display.toList ++ portText a.port) := by
    rw [a.toList_display]
    split
    · rw [List.nil_append, splitLast_of_absent hplace]
      rfl
    · rw [List.append_assoc, List.singleton_append, splitLast_append hplace]
      rfl
  have hcut : Url.cut ':' (if a.username.isEmpty && a.password.isEmpty then [] else a.userText) =
      (a.username.toList, if a.password.isEmpty then none else some a.password.toList) := by
    unfold userText Url.cut
    cases hpassword : a.password.isEmpty with
    | true =>
        cases husername : a.username.isEmpty with
        | true =>
            rw [String.isEmpty_iff.mp husername]
            rfl
        | false =>
            simp only [Bool.and_true, Bool.false_eq_true, if_false, if_true, List.append_nil]
            rw [splitFirst_of_absent (not_at_of_kept h.username).1]
    | false =>
        simp only [Bool.and_false, Bool.false_eq_true, if_false]
        rw [splitFirst_append (not_at_of_kept h.username).1]
  have hpassword : Url.encodeUser
      ((if a.password.isEmpty then none else some a.password.toList).getD []) = a.password := by
    split
    · next hempty =>
        rw [String.isEmpty_iff.mp hempty]
        rfl
    · exact encodeUser_of_kept h.password
  unfold Url.authority?
  simp only [hsplit, hcut, hostPort?_host hscheme h.host (portOf?_portText h.port)]
  cases hhost : Host.ofSpecial? a.host.display.toList with
  | none => rfl
  | some host =>
      simp only [Option.map_some, Option.bind_eq_bind, Option.bind_some, hpassword,
        encodeUser_of_kept h.username, (Host.placed_of_ofSpecial? hhost).ne_nowhere,
        Bool.false_and, Bool.false_eq_true, if_false]
      rfl

/-- A host and a port: the usual port of the scheme is not kept. -/
theorem authority?_host {scheme : String} (hscheme : Url.isSpecial scheme = true) {host : Host}
    (h : host.Placed) {port : Nat} (hport : port ≤ 65535) :
    Url.authority? scheme (host.display.toList ++ portText (some port)) =
      (Host.ofSpecial? host.display.toList).map fun host =>
        (⟨"", "", host, if Url.usualPort? scheme == some port then none else some port⟩, []) := by
  unfold Url.authority?
  simp only [splitLast_of_absent (no_at_in_place h _), Option.getD_none,
    Url.cut, splitFirst_of_absent (List.not_mem_nil (a := ':')),
    hostPort?_host hscheme h (portOf?_toDigits hport)]
  cases hhost : Host.ofSpecial? host.display.toList with
  | none => rfl
  | some host =>
      simp only [Option.map_some, Option.bind_eq_bind, Option.bind_some,
        (Host.placed_of_ofSpecial? hhost).ne_nowhere, Bool.false_and, Bool.false_eq_true, if_false]
      rfl

end Authority
end ContentGateway
