import Surface.Model.Basic
import Surface.Url

/-!
# Surface.Target

Normalizing the target a user names: an address, a URL or a bare hostname.

`canonical_iff`: a target is canonical when its hostname tells its address and is normalized to
itself. It is, except for a URL whose host ends in a number once its trailing dots are cut off:
those dots are cut off after the URL is parsed, and before a bare hostname is.

`to_lowercase` knows all of Unicode, and `String.toLower` the letters of ASCII only. They agree on
the domains that the parsers give, which are ASCII without capitals (`Parsers.Standard.lower`), so
that neither changes them.
-/

namespace Surface

structure TargetError where
  message : String
deriving DecidableEq

def ipTarget (original : String) (ip : IpAddr) : NormalizedTarget where
  original := original
  hostname := some ip.display
  explicitIp := some ip
  scheme := none
  explicitPort := none
  initialPath := none

def validLabel (label : String) : Bool :=
  label ≠ "" && label.utf8ByteSize ≤ 63 && label.toList.head? ≠ some '-' &&
    label.toList.getLast? ≠ some '-' && label.toList.all fun c => c.isAlphanum || c = '-'

def validateDomain (domain : String) : Except TargetError Unit :=
  if 253 < domain.utf8ByteSize then .error ⟨"hostname exceeds 253 ASCII bytes"⟩
  else
    match (splitText '.' domain).find? fun label => !validLabel label with
    | some label => .error ⟨"invalid hostname label '" ++ label ++ "'"⟩
    | none => .ok ()

/-- The hostname and the explicit address for the host of a URL. -/
def hostIdentity : Host → Except TargetError (String × Option IpAddr)
  | .domain domain =>
    let domain := (trimEnd '.' domain).toLower
    (validateDomain domain).map fun _ => (domain, none)
  | .ipv4 ip => .ok (IpAddr.displayV4 ip, some (.v4 ip))
  | .ipv6 ip => .ok (IpAddr.displayV6 ip, some (.v6 ip))

def initialPath (url : Url) : String :=
  match url.query with
  | some query => url.path ++ "?" ++ query
  | none => url.path

section Parsers

variable (parsers : Parsers)

def normalizeUrl (input : String) : Except TargetError NormalizedTarget :=
  match parsers.url input with
  | .error error => .error ⟨"invalid URL: " ++ error⟩
  | .ok url =>
    if ¬(url.scheme = "http" ∨ url.scheme = "https") then
      .error ⟨"unsupported URL scheme '" ++ url.scheme ++ "'; use http or https"⟩
    else if url.username ≠ "" ∨ url.password.isSome = true then
      .error ⟨"target URLs must not contain credentials"⟩
    else
      match url.host with
      | none => .error ⟨"URL must contain a hostname or IP address"⟩
      | some host => (hostIdentity host).map fun identity =>
        { original := input
          hostname := some identity.1
          explicitIp := identity.2
          scheme := some url.scheme
          explicitPort := url.port
          initialPath := some (initialPath url) }

/-- What is left of `normalize_target` for a bare name. -/
def normalizeHostname (input : String) : Except TargetError NormalizedTarget :=
  let hostname := trimEnd '.' input
  if hostname = "" then .error ⟨"hostname must not be empty"⟩
  else
    match parsers.host hostname with
    | .error error => .error ⟨"invalid hostname: " ++ error⟩
    | .ok (.domain domain) =>
      let domain := domain.toLower
      (validateDomain domain).map fun _ =>
        { original := input
          hostname := some domain
          explicitIp := none
          scheme := none
          explicitPort := none
          initialPath := none }
    | .ok (.ipv4 ip) => .ok (ipTarget input (.v4 ip))
    | .ok (.ipv6 ip) => .ok (ipTarget input (.v6 ip))

/-- A text without the brackets around it, when it has both. -/
def unbracketed (input : String) : String :=
  if input.toList.head? = some '[' ∧ input.toList.tail.getLast? = some ']' then
    String.ofList input.toList.tail.dropLast
  else input

def normalizeTarget (input : String) : Except TargetError NormalizedTarget :=
  if input = "" ∨ trimSpaces input.toList ≠ input.toList ∨ input.toList.any isControl = true then
    .error ⟨"target must be non-empty and contain no surrounding whitespace"⟩
  else
    match IpAddr.parse (unbracketed input) with
    | some ip => .ok (ipTarget input ip)
    | none =>
      if hasText "://" input = true then normalizeUrl parsers input
      else if input.toList.any (fun c => c ∈ ['/', '?', '#', '@', ':']) = true then
        .error ⟨"bare target must be a hostname or IP address"⟩
      else normalizeHostname parsers input

end Parsers

/-! ## Valid domains -/

theorem validateDomain_ok {domain : String} (h : validateDomain domain = .ok ()) :
    ∀ label ∈ splitText '.' domain, validLabel label = true := by
  unfold validateDomain at h
  split at h
  · cases h
  · split at h
    · cases h
    · rename_i hfind
      intro label hlabel
      simpa using List.find?_eq_none.mp hfind label hlabel

theorem validLabel_chars {label : String} (h : validLabel label = true) :
    label ≠ "" ∧ ∀ c ∈ label.toList, c.isAlphanum = true ∨ c = '-' := by
  unfold validLabel at h
  simp only [Bool.and_eq_true, decide_eq_true_eq, List.all_eq_true, Bool.or_eq_true] at h
  exact ⟨h.1.1.1.1, h.2⟩

/-- What makes a name safe to be normalized again. -/
structure PlainName (name : String) : Prop where
  chars : ∀ c ∈ name.toList, c.isAlphanum = true ∨ c = '-' ∨ c = '.'
  nonempty : name ≠ ""
  last : name.toList.getLast? ≠ some '.'

theorem plainName_of_valid {domain : String} (h : validateDomain domain = .ok ()) :
    PlainName domain := by
  have hlabels : ∀ label ∈ domain.toList.splitOn '.', label ≠ [] := fun label hlabel hnil =>
    (validLabel_chars (validateDomain_ok h _ (List.mem_map_of_mem hlabel))).1
      (by rw [hnil, String.ofList_nil])
  refine ⟨fun c hc => ?_, fun hempty => ?_, fun hlast => ?_⟩
  · have hdot : ".".toList = ['.'] := by decide
    rw [← intercalate_splitText hdot domain] at hc
    rcases mem_intercalate hc with hc | ⟨label, hlabel, hc⟩
    · exact .inr (.inr (List.mem_singleton.mp (hdot ▸ hc)))
    · exact ((validLabel_chars (validateDomain_ok h label hlabel)).2 c hc).imp_right .inl
  · rw [hempty] at hlabels
    exact hlabels [] List.mem_cons_self rfl
  · obtain ⟨front, hfront⟩ := List.getLast?_eq_some_iff.mp hlast
    rw [hfront, List.splitOn_append_cons_self, List.splitOn_nil] at hlabels
    exact hlabels [] (List.mem_append_right _ List.mem_cons_self) rfl

/-- A character that `-`, `.` or an alphanumeric character is not. -/
theorem PlainName.not_mem {name : String} (h : PlainName name) {c : Char}
    (hc : c.isAlphanum = false ∧ c ≠ '-' ∧ c ≠ '.') : c ∉ name.toList := by
  intro hmem
  rcases h.chars c hmem with halnum | hdash | hdot
  · rw [hc.1] at halnum
    cases halnum
  · exact hc.2.1 hdash
  · exact hc.2.2 hdot

/-! ## Texts that are normalized as they stand -/

/-- Printable ASCII characters other than the space. -/
def Graphic (c : Char) : Prop := 0x21 ≤ c.toNat ∧ c.toNat < 0x7f

theorem Graphic.clean {c : Char} (h : Graphic c) :
    isUnicodeSpace c = false ∧ isControl c = false := by
  unfold Graphic at h
  constructor
  · simp [isUnicodeSpace]
    omega
  · simp only [isControl, decide_eq_false_iff_not]
    omega

theorem graphic_of_isAlphanum {c : Char} (h : c.isAlphanum = true) : Graphic c := by
  have := isAlphanum_bounds h
  unfold Graphic
  omega

section Normalize

variable {parsers : Parsers} {input : String}

theorem clean_input (hne : input ≠ "") (hchars : ∀ c ∈ input.toList, Graphic c) :
    ¬(input = "" ∨ trimSpaces input.toList ≠ input.toList ∨
      input.toList.any isControl = true) := by
  have htrim : trimSpaces ([] ++ input.toList ++ []) = input.toList :=
    trimSpaces_surrounded (fun c hc => (by cases hc)) (fun c hc => (hchars c hc).clean.1)
      fun c hc => (by cases hc)
  rw [List.nil_append, List.append_nil] at htrim
  rintro (hempty | hspace | hcontrol)
  · exact hne hempty
  · exact hspace htrim
  · obtain ⟨c, hc, hcontrol⟩ := List.any_eq_true.mp hcontrol
    rw [(hchars c hc).clean.2] at hcontrol
    cases hcontrol

theorem unbracketed_eq_self (hopen : '[' ∉ input.toList) : unbracketed input = input :=
  if_neg fun h => hopen (List.mem_of_mem_head? h.1)

/-- The text of an address is a target by itself. -/
theorem normalizeTarget_display (parsers : Parsers) (ip : IpAddr) :
    normalizeTarget parsers ip.display = .ok (ipTarget ip.display ip) := by
  have hhex : ∀ c ∈ hexDigits, Graphic c ∧ c ≠ '[' := by
    intro c hc
    have hdigits : hexDigits.all Char.isAlphanum = true := by decide
    exact ⟨graphic_of_isAlphanum (List.all_eq_true.mp hdigits c hc),
      fun h => absurd (h ▸ hc) (by decide)⟩
  have hchars : ∀ c ∈ ip.display.toList, Graphic c ∧ c ≠ '[' := by
    intro c hc
    rcases IpAddr.display_chars ip c hc with rfl | rfl | hc
    · exact ⟨⟨by decide, by decide⟩, by decide⟩
    · exact ⟨⟨by decide, by decide⟩, by decide⟩
    · exact hhex c hc
  have hne : ip.display ≠ "" := by
    intro hempty
    have hparse := IpAddr.parse_display ip
    rw [hempty] at hparse
    cases hparse
  rw [normalizeTarget, if_neg (clean_input hne fun c hc => (hchars c hc).1),
    unbracketed_eq_self fun hmem => (hchars '[' hmem).2 rfl, IpAddr.parse_display]

/-- A plain name that is no address is a bare hostname. -/
theorem normalizeTarget_plain (hname : PlainName input) (hparse : IpAddr.parse input = none) :
    normalizeTarget parsers input = normalizeHostname parsers input := by
  have hgraphic : ∀ c ∈ input.toList, Graphic c := by
    intro c hc
    rcases hname.chars c hc with halnum | rfl | rfl
    · exact graphic_of_isAlphanum halnum
    · exact ⟨by decide, by decide⟩
    · exact ⟨by decide, by decide⟩
  have hmarks : ∀ c ∈ ['/', '?', '#', '@', ':', '['], c ∉ input.toList := by
    have hplain : ['/', '?', '#', '@', ':', '['].all
        (fun c => c.isAlphanum = false ∧ c ≠ '-' ∧ c ≠ '.') = true := by decide
    exact fun c hc => hname.not_mem (of_decide_eq_true (List.all_eq_true.mp hplain c hc))
  have hurl : ¬hasText "://" input = true := by
    intro h
    have hslash : '/' ∈ "://".toList := by decide
    exact hmarks '/' (by decide) ((of_decide_eq_true h).subset hslash)
  have hbare : ¬input.toList.any (fun c => c ∈ ['/', '?', '#', '@', ':']) = true := by
    intro h
    obtain ⟨c, hc, hmark⟩ := List.any_eq_true.mp h
    refine hmarks c ?_ hc
    exact List.mem_append_left ['['] (of_decide_eq_true hmark)
  rw [normalizeTarget, if_neg (clean_input hname.nonempty hgraphic),
    unbracketed_eq_self (hmarks '[' (by decide)), hparse]
  simp only
  rw [if_neg hurl, if_neg hbare]

end Normalize

/-! ## Canonical targets -/

/-- The hostname tells what the target is: it is the text of the explicit address when there is
one and of no address otherwise, and it is normalized to itself. -/
structure CanonicalAs (parsers : Parsers) (target : NormalizedTarget) (hostname : String) : Prop where
  known : target.hostname = some hostname
  address : ∀ ip, target.explicitIp = some ip ↔ IpAddr.parse hostname = some ip
  again : ∃ again, normalizeTarget parsers hostname = .ok again ∧
    again.hostname = some hostname ∧ again.explicitIp = target.explicitIp

def Canonical (parsers : Parsers) (target : NormalizedTarget) : Prop :=
  ∃ hostname, CanonicalAs parsers target hostname

/-- The input is a URL, and its host is a name that ends in a number once the dots at its end are
cut off. -/
def CutToNumber (parsers : Parsers) (input : String) : Prop :=
  IpAddr.parse (unbracketed input) = none ∧ hasText "://" input = true ∧
    ∃ url name, parsers.url input = .ok url ∧ url.host = some (.domain name) ∧
      endsInNumber (trimEnd '.' name) = true

section Canonical

variable {parsers : Parsers} {toAscii : String → Option String} {target : NormalizedTarget}

theorem canonical_address (ip : IpAddr) (hhostname : target.hostname = some ip.display)
    (hip : target.explicitIp = some ip) : Canonical parsers target := by
  refine ⟨ip.display, hhostname, fun other => ?_, ipTarget ip.display ip,
    normalizeTarget_display parsers ip, rfl, hip.symm⟩
  rw [hip, IpAddr.parse_display]

/-- A target that is known by a plain name only. -/
theorem canonical_plain_iff {name : String} (hvalid : validateDomain name = .ok ())
    (hlower : name.toLower = name) (hhostname : target.hostname = some name)
    (hip : target.explicitIp = none)
    (hhost : ∀ other, parsers.host name = .ok (.domain other) ↔
      other = name ∧ endsInNumber name = false) :
    Canonical parsers target ↔ endsInNumber name = false := by
  have hplain := plainName_of_valid hvalid
  have hcolon : ':' ∉ name.toList := hplain.not_mem (by decide)
  have htrim : trimEnd '.' name = name := trimEnd_eq_self hplain.last
  constructor
  · rintro ⟨hostname, hsame, haddress, again, hagain, -, hagainIp⟩
    cases Option.some.inj (hhostname.symm.trans hsame)
    rw [hip] at haddress hagainIp
    have hparse : IpAddr.parse name = none :=
      Option.eq_none_iff_forall_ne_some.mpr fun ip h => (by cases (haddress ip).mpr h)
    rw [normalizeTarget_plain hplain hparse, normalizeHostname, htrim] at hagain
    simp only [if_neg hplain.nonempty] at hagain
    split at hagain
    · cases hagain
    · rename_i other hother
      exact ((hhost other).mp hother).2
    · cases hagain
      cases hagainIp
    · cases hagain
      cases hagainIp
  · intro hnumber
    have hparse := IpAddr.parse_eq_none hcolon hnumber
    refine ⟨name, hhostname, fun ip => ?_, ?_⟩
    · rw [hip, hparse]
    · have hdomain := (hhost name).mpr ⟨rfl, hnumber⟩
      refine ⟨{ original := name
                hostname := some name
                explicitIp := none
                scheme := none
                explicitPort := none
                initialPath := none }, ?_, rfl, hip.symm⟩
      rw [normalizeTarget_plain hplain hparse, normalizeHostname, htrim]
      simp only [if_neg hplain.nonempty, hdomain, hlower, hvalid]
      rfl

theorem normalizeTarget_ok_cases {input : String} (h : normalizeTarget parsers input = .ok target) :
    (∃ ip, IpAddr.parse (unbracketed input) = some ip ∧ target = ipTarget input ip) ∨
    (IpAddr.parse (unbracketed input) = none ∧ hasText "://" input = true ∧
      normalizeUrl parsers input = .ok target) ∨
    (hasText "://" input = false ∧ normalizeHostname parsers input = .ok target) := by
  unfold normalizeTarget at h
  split at h
  · cases h
  · split at h
    · rename_i ip hip
      cases h
      exact .inl ⟨ip, hip, rfl⟩
    · rename_i hip
      split at h
      · rename_i hurl
        exact .inr (.inl ⟨hip, hurl, h⟩)
      · rename_i hurl
        split at h
        · cases h
        · exact .inr (.inr ⟨Bool.eq_false_of_not_eq_true hurl, h⟩)

theorem normalizeUrl_ok {input : String} (h : normalizeUrl parsers input = .ok target) :
    ∃ url host identity, parsers.url input = .ok url ∧
      (url.scheme = "http" ∨ url.scheme = "https") ∧ url.host = some host ∧
      hostIdentity host = .ok identity ∧ target.hostname = some identity.1 ∧
      target.explicitIp = identity.2 := by
  unfold normalizeUrl at h
  split at h
  · cases h
  · rename_i url hurl
    split at h
    · cases h
    · rename_i hscheme
      split at h
      · cases h
      · split at h
        · cases h
        · rename_i host hhost
          cases hidentity : hostIdentity host with
          | error error =>
            rw [hidentity] at h
            cases h
          | ok identity =>
            rw [hidentity] at h
            cases h
            exact ⟨url, host, identity, hurl, not_not.mp hscheme, hhost, hidentity, rfl, rfl⟩

/-- The domains of the standard are in lower case. -/
theorem toLower_trimEnd (standard : parsers.Standard toAscii) {text name : String}
    (hname : parsers.host text = .ok (.domain name)) :
    (trimEnd '.' name).toLower = trimEnd '.' name ∧ name.toLower = name := by
  have hlower := standard.lower text name ((standard.domain text name).mp hname).2.1
  exact ⟨toLower_eq_self fun c hc => (hlower c (mem_trimEnd hc)).2,
    toLower_eq_self fun c hc => (hlower c hc).2⟩

theorem canonical_domain_iff (standard : parsers.Standard toAscii) {text name : String}
    (hname : parsers.host text = .ok (.domain name))
    (hvalid : validateDomain (trimEnd '.' name) = .ok ())
    (hhostname : target.hostname = some (trimEnd '.' name)) (hip : target.explicitIp = none) :
    Canonical parsers target ↔ endsInNumber (trimEnd '.' name) = false := by
  have hplain := plainName_of_valid hvalid
  have hopen : '[' ∉ (trimEnd '.' name).toList := hplain.not_mem (by decide)
  exact canonical_plain_iff hvalid (toLower_trimEnd standard hname).1 hhostname hip fun _ =>
    standard.domain_trimEnd_iff hname hplain.nonempty fun h => hopen (List.mem_of_mem_head? h)

/-- The bare name was parsed without its dots, so it does not end in a number. -/
theorem canonical_hostname (standard : parsers.Standard toAscii) {input : String}
    (h : normalizeHostname parsers input = .ok target) : Canonical parsers target := by
  unfold normalizeHostname at h
  simp only at h
  split at h
  · cases h
  · split at h
    · cases h
    · rename_i name hname
      have hnumber := ((standard.domain _ _).mp hname).2.2
      rw [(toLower_trimEnd standard hname).2] at h
      cases hvalid : validateDomain name with
      | error error =>
        rw [hvalid] at h
        cases h
      | ok =>
        rw [hvalid] at h
        cases h
        have htrim : trimEnd '.' name = name := trimEnd_eq_self (plainName_of_valid hvalid).last
        refine (canonical_domain_iff standard hname ?_ (congrArg some htrim.symm) rfl).mpr ?_
        · rw [htrim, hvalid]
        · rw [htrim, hnumber]
    · rename_i bits hbits
      cases h
      exact canonical_address (.v4 bits) rfl rfl
    · rename_i bits hbits
      cases h
      exact canonical_address (.v6 bits) rfl rfl

/-- The dots were cut off a name that had been parsed with them. -/
theorem canonical_url_iff (standard : parsers.Standard toAscii) {input : String}
    (h : normalizeUrl parsers input = .ok target) :
    Canonical parsers target ↔ ¬∃ url name, parsers.url input = .ok url ∧
      url.host = some (.domain name) ∧ endsInNumber (trimEnd '.' name) = true := by
  obtain ⟨url, host, identity, hurl, hscheme, hhost, hidentity, hhostname, hip⟩ := normalizeUrl_ok h
  have hcut : (∃ url name, parsers.url input = .ok url ∧ url.host = some (.domain name) ∧
      endsInNumber (trimEnd '.' name) = true) ↔
      ∃ name, host = .domain name ∧ endsInNumber (trimEnd '.' name) = true := by
    constructor
    · rintro ⟨url', name, hurl', hhost', hnumber⟩
      cases hurl.symm.trans hurl'
      exact ⟨name, Option.some.inj (hhost.symm.trans hhost'), hnumber⟩
    · rintro ⟨name, rfl, hnumber⟩
      exact ⟨url, name, hurl, hhost, hnumber⟩
  rw [hcut]
  cases host with
  | domain name =>
    obtain ⟨part, hname⟩ := standard.special input url _ hurl hscheme hhost
    rw [hostIdentity, (toLower_trimEnd standard hname).1] at hidentity
    cases hvalid : validateDomain (trimEnd '.' name) with
    | error error =>
      rw [hvalid] at hidentity
      cases hidentity
    | ok =>
      rw [hvalid] at hidentity
      cases hidentity
      rw [canonical_domain_iff standard hname hvalid hhostname hip]
      simp
  | ipv4 bits =>
    cases hidentity
    refine iff_of_true (canonical_address (.v4 bits) hhostname hip) ?_
    rintro ⟨name, hdomain, -⟩
    cases hdomain
  | ipv6 bits =>
    cases hidentity
    refine iff_of_true (canonical_address (.v6 bits) hhostname hip) ?_
    rintro ⟨name, hdomain, -⟩
    cases hdomain

theorem canonical_iff (standard : parsers.Standard toAscii) {input : String}
    (h : normalizeTarget parsers input = .ok target) :
    Canonical parsers target ↔ ¬CutToNumber parsers input := by
  rcases normalizeTarget_ok_cases h with ⟨ip, hip, rfl⟩ | ⟨hip, hmark, hurl⟩ | ⟨hmark, hhostname⟩
  · refine iff_of_true (canonical_address ip rfl rfl) fun hcut => ?_
    rw [hcut.1] at hip
    cases hip
  · rw [canonical_url_iff standard hurl, CutToNumber]
    simp only [hip, hmark, true_and]
  · refine iff_of_true (canonical_hostname standard hhostname) fun hcut => ?_
    rw [hcut.2.1] at hmark
    cases hmark

/-- Only the host of a URL with two dots at its end ends in a number without them. -/
theorem CutToNumber.dots (standard : parsers.Standard toAscii) {input : String}
    (h : normalizeTarget parsers input = .ok target) (hcut : CutToNumber parsers input) :
    ∃ url front, parsers.url input = .ok url ∧ url.host = some (.domain (front ++ "..")) := by
  obtain ⟨hip, hmark, url, name, hurl, hhost, hnumber⟩ := hcut
  rcases normalizeTarget_ok_cases h with ⟨ip, hip', -⟩ | ⟨-, -, hok⟩ | ⟨hmark', -⟩
  · cases hip.symm.trans hip'
  · obtain ⟨url', host, -, hurl', hscheme, hhost', -⟩ := normalizeUrl_ok hok
    cases hurl.symm.trans hurl'
    obtain ⟨part, hname⟩ := standard.special input url _ hurl hscheme hhost
    obtain ⟨front, rfl⟩ := standard.two_dots hname hnumber
    exact ⟨url, front, hurl, hhost⟩
  · cases hmark.symm.trans hmark'

end Canonical

/-! ## Hostnames -/

section Hostnames

variable {parsers : Parsers} {target : NormalizedTarget} {input name : String}

/-- A hostname is the text of an address or a valid domain. -/
theorem hostname_cases (h : normalizeTarget parsers input = .ok target)
    (hname : target.hostname = some name) :
    (∃ ip : IpAddr, name = ip.display) ∨ validateDomain name = .ok () := by
  rcases normalizeTarget_ok_cases h with ⟨ip, -, rfl⟩ | ⟨-, -, hurl⟩ | ⟨-, hhost⟩
  · cases hname
    exact .inl ⟨ip, rfl⟩
  · obtain ⟨url, host, identity, -, -, -, hidentity, hknown, -⟩ := normalizeUrl_ok hurl
    rw [hname] at hknown
    cases hknown
    cases host with
    | domain domain =>
      unfold hostIdentity at hidentity
      cases hvalid : validateDomain (trimEnd '.' domain).toLower with
      | error error =>
        simp only [hvalid] at hidentity
        cases hidentity
      | ok _ =>
        simp only [hvalid] at hidentity
        cases hidentity
        exact .inr hvalid
    | ipv4 bits =>
      cases hidentity
      exact .inl ⟨.v4 bits, rfl⟩
    | ipv6 bits =>
      cases hidentity
      exact .inl ⟨.v6 bits, rfl⟩
  · unfold normalizeHostname at hhost
    simp only at hhost
    split at hhost
    · cases hhost
    · split at hhost
      · cases hhost
      · rename_i domain _
        cases hvalid : validateDomain domain.toLower with
        | error error =>
          rw [hvalid] at hhost
          cases hhost
        | ok _ =>
          rw [hvalid] at hhost
          cases hhost
          cases hname
          exact .inr hvalid
      · rename_i bits _
        cases hhost
        cases hname
        exact .inl ⟨.v4 bits, rfl⟩
      · rename_i bits _
        cases hhost
        cases hname
        exact .inl ⟨.v6 bits, rfl⟩

/-- No hostname is a wildcard, and none starts with a dot. -/
theorem hostname_shape (h : normalizeTarget parsers input = .ok target)
    (hname : target.hostname = some name) :
    '*' ∉ name.toList ∧ ∀ rest, name.toList ≠ '.' :: rest := by
  rcases hostname_cases h hname with ⟨ip, rfl⟩ | hvalid
  · refine ⟨fun hstar => ?_, fun rest hrest => ?_⟩
    · rcases IpAddr.display_chars ip '*' hstar with h | h | h <;> revert h <;> decide
    · have hparse := IpAddr.parse_display ip
      rw [IpAddr.parse_dot hrest] at hparse
      cases hparse
  · refine ⟨(plainName_of_valid hvalid).not_mem (by decide), fun rest hrest => ?_⟩
    have hlabel : "" ∈ splitText '.' name := by
      rw [splitText, hrest, ← List.nil_append ('.' :: rest), List.splitOn_append_cons_self,
        List.splitOn_nil]
      exact List.mem_cons_self
    exact (validLabel_chars (validateDomain_ok hvalid "" hlabel)).1 rfl

end Hostnames

/-! ## A URL with two dots -/

/-- Domain to ASCII on the names it has nothing to change about. -/
def asciiName (text : String) : Option String :=
  if text ≠ "" ∧ text.toList.all (fun c => c.isLower || c.isDigit || c = '-' || c = '.') = true then
    some text
  else none

def asciiHost (text : String) : Except String Host :=
  match asciiName text with
  | none => .error "invalid international domain name"
  | some name =>
    if endsInNumber name = true then
      match IpAddr.parse name with
      | some (.v4 bits) => .ok (.ipv4 bits)
      | _ => .error "invalid IPv4 address"
    else .ok (.domain name)

def asciiAuthority (text : String) : String :=
  String.ofList ((text.toList.drop 7).takeWhile (· ≠ '/'))

def asciiUrl (text : String) : Except String Url :=
  if hasStart "http://" text = true then
    (asciiHost (asciiAuthority text)).map fun host =>
      { scheme := "http"
        username := ""
        password := none
        host := some host
        port := none
        path := String.ofList ((text.toList.drop 7).dropWhile (· ≠ '/'))
        query := none }
  else .error "relative URL without a base"

/-- The parsers for plain names behind `http://`. -/
def asciiParsers : Parsers where
  host := asciiHost
  url := asciiUrl

theorem asciiName_eq_some {text name : String} (h : asciiName text = some name) :
    text = name ∧ name ≠ "" ∧
      ∀ c ∈ name.toList, c.isLower = true ∨ c.isDigit = true ∨ c = '-' ∨ c = '.' := by
  unfold asciiName at h
  split at h
  · rename_i hchars
    cases h
    refine ⟨rfl, hchars.1, fun c hc => ?_⟩
    have hall := List.all_eq_true.mp hchars.2 c hc
    simp only [Bool.or_eq_true, decide_eq_true_eq] at hall
    tauto
  · cases h

theorem asciiName_self {name : String} (hne : name ≠ "")
    (hchars : ∀ c ∈ name.toList, c.isLower = true ∨ c.isDigit = true ∨ c = '-' ∨ c = '.') :
    asciiName name = some name := by
  refine if_pos ⟨hne, List.all_eq_true.mpr fun c hc => ?_⟩
  simp only [Bool.or_eq_true, decide_eq_true_eq]
  have := hchars c hc
  tauto

theorem lower_of_asciiName {c : Char}
    (h : c.isLower = true ∨ c.isDigit = true ∨ c = '-' ∨ c = '.') :
    c.toNat < 0x80 ∧ c.isUpper = false := by
  have hupper : (c.toNat < 65 ∨ 90 < c.toNat) → c.isUpper = false := fun hout =>
    Bool.eq_false_of_not_eq_true fun h => by
      have := isUpper_bounds h
      omega
  rcases h with hlower | hdigit | rfl | rfl
  · have := isLower_bounds hlower
    exact ⟨by omega, hupper (by omega)⟩
  · have := isDigit_bounds hdigit
    exact ⟨by omega, hupper (by omega)⟩
  · decide
  · decide

theorem asciiHost_domain_iff {text name : String} : asciiHost text = .ok (.domain name) ↔
    text.toList.head? ≠ some '[' ∧ asciiName text = some name ∧ endsInNumber name = false := by
  unfold asciiHost
  constructor
  · intro h
    split at h
    · cases h
    · rename_i other hother
      split at h
      · split at h <;> cases h
      · rename_i hnumber
        cases h
        obtain ⟨rfl, -, hchars⟩ := asciiName_eq_some hother
        refine ⟨fun hopen => ?_, hother, Bool.eq_false_of_not_eq_true hnumber⟩
        exact absurd (hchars '[' (List.mem_of_mem_head? hopen)) (by decide)
  · rintro ⟨-, hname, hnumber⟩
    rw [hname]
    simp only [hnumber, Bool.false_eq_true, if_false]

theorem asciiParsers_standard : asciiParsers.Standard asciiName where
  domain _ _ := asciiHost_domain_iff
  lower text name h c hc := by
    obtain ⟨-, -, hchars⟩ := asciiName_eq_some h
    exact lower_of_asciiName (hchars c hc)
  again text name h := by
    obtain ⟨hsame, -, -⟩ := asciiName_eq_some h
    rwa [hsame] at h
  root name hne h := by
    obtain ⟨-, -, hchars⟩ := asciiName_eq_some h
    refine asciiName_self hne fun c hc => hchars c ?_
    rw [String.toList_append]
    exact List.mem_append_left _ hc
  special text url host h _ hhost := by
    unfold asciiParsers asciiUrl at h
    simp only at h
    split at h
    · cases hpart : asciiHost (asciiAuthority text) with
      | error error =>
        rw [hpart] at h
        cases h
      | ok found =>
        rw [hpart] at h
        cases h
        cases hhost
        exact ⟨asciiAuthority text, hpart⟩
    · cases h

def dottedTarget : NormalizedTarget where
  original := "http://1.2.3.4../"
  hostname := some "1.2.3.4"
  explicitIp := none
  scheme := some "http"
  explicitPort := none
  initialPath := some "/"

/-- A name with a dot at its end, which is cut off. -/
def namedTarget : NormalizedTarget where
  original := "http://example.com./start"
  hostname := some "example.com"
  explicitIp := none
  scheme := some "http"
  explicitPort := none
  initialPath := some "/start"

theorem hostIdentity_domain {text name : String} (htrim : trimEnd '.' text = name)
    (hlower : name.toLower = name) (hvalid : validateDomain name = .ok ()) :
    hostIdentity (.domain text) = .ok (name, none) := by
  rw [hostIdentity, htrim, hlower, hvalid]
  rfl

theorem normalizeTarget_domain {parsers : Parsers} {input text name path : String}
    (hinput : ¬(input = "" ∨ trimSpaces input.toList ≠ input.toList ∨
      input.toList.any isControl = true))
    (hparse : IpAddr.parse (unbracketed input) = none) (hmark : hasText "://" input = true)
    (hurl : parsers.url input =
      .ok ⟨"http", "", none, some (.domain text), none, path, none⟩)
    (hhost : hostIdentity (.domain text) = .ok (name, none)) :
    normalizeTarget parsers input =
      .ok ⟨input, some name, none, some "http", none, some path⟩ := by
  rw [normalizeTarget, if_neg hinput, hparse]
  simp only
  rw [if_pos hmark, normalizeUrl, hurl]
  simp only [hhost]
  rfl

theorem normalizeTarget_dotted :
    normalizeTarget asciiParsers "http://1.2.3.4../" = .ok dottedTarget := by
  have hhost : hostIdentity (.domain "1.2.3.4..") = .ok ("1.2.3.4", none) :=
    hostIdentity_domain (by decide) (toLower_eq (by decide)) rfl
  exact normalizeTarget_domain (by decide) (by decide) (by decide) rfl hhost

theorem normalizeTarget_named :
    normalizeTarget asciiParsers "http://example.com./start" = .ok namedTarget := by
  have hhost : hostIdentity (.domain "example.com.") = .ok ("example.com", none) :=
    hostIdentity_domain (by decide) (toLower_eq (by decide)) rfl
  exact normalizeTarget_domain (by decide) (by decide) (by decide) rfl hhost

theorem canonical_iff_dots :
    (Canonical asciiParsers dottedTarget ↔ ¬CutToNumber asciiParsers "http://1.2.3.4../") ∧
      Canonical asciiParsers namedTarget := by
  refine ⟨canonical_iff asciiParsers_standard normalizeTarget_dotted,
    (canonical_iff asciiParsers_standard normalizeTarget_named).mpr ?_⟩
  rintro ⟨-, -, url, name, hurl, hhost, hnumber⟩
  cases hurl
  cases hhost
  exact absurd hnumber (by decide)

/-- The hostname is the text of an address, which the target does not have. -/
theorem dotted_not_canonical : asciiParsers.Standard asciiName ∧
    ∃ target, normalizeTarget asciiParsers "http://1.2.3.4../" = .ok target ∧
      ¬Canonical asciiParsers target := by
  refine ⟨asciiParsers_standard, dottedTarget, normalizeTarget_dotted, ?_⟩
  rintro ⟨hostname, hknown, haddress, -⟩
  cases hknown
  have hparse : IpAddr.parse "1.2.3.4" = some (IpAddr.ofOctets 1 2 3 4) := by decide
  cases (haddress _).mpr hparse

end Surface
