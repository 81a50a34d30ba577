import ResourceRouter.Proofs.Url.Host
import ResourceRouter.Proofs.Url.Path
import ResourceRouter.Proofs.Url.Relative

set_option autoImplicit false

/-!
Absolute URLs of the web. A path that needs no encoding and has no segments of dots is read as it is
behind any origin.
-/

namespace ResourceRouter.Url

/-- What stands before the path in an absolute URL: a scheme of the web, a host of one word, and a
port. -/
structure Origin where
  secure : Bool
  host : List Char
  port : Option (List Char)
  host_given : host ≠ []
  host_letters : ∀ c ∈ host, c.isLower = true
  port_digits : ∀ digits ∈ port, ∀ c ∈ digits, c.isDigit = true
  port_bounded : ∀ digits ∈ port, Nat.ofDigitChars 10 digits 0 ≤ 65535

namespace Origin

def scheme (origin : Origin) : List Char :=
  if origin.secure then ['h', 't', 't', 'p', 's'] else ['h', 't', 't', 'p']

def portText (origin : Origin) : List Char :=
  match origin.port with
  | none => []
  | some digits => ':' :: digits

def text (origin : Origin) : List Char :=
  origin.scheme ++ ':' :: '/' :: '/' :: (origin.host ++ origin.portText)

variable (origin : Origin)

theorem mem_portText {c : Char} (inside : c ∈ origin.portText) : c = ':' ∨ c.isDigit = true := by
  rw [portText] at inside
  cases port : origin.port with
  | none =>
      rw [port] at inside
      cases inside
  | some digits =>
      rw [port] at inside
      rcases List.mem_cons.mp inside with colon | inDigits
      · exact .inl colon
      · exact .inr (origin.port_digits digits port c inDigits)

theorem visible_text : ∀ c ∈ origin.text, 0x20 < c.toNat ∧ c.toNat < 0x7F := by
  have visibleScheme : ∀ c ∈ origin.scheme, 0x20 < c.toNat ∧ c.toNat < 0x7F := by
    rw [scheme]
    cases origin.secure <;> simp
  intro c inside
  simp only [text, List.mem_append, List.mem_cons] at inside
  rcases inside with inScheme | rfl | rfl | rfl | inHost | inPort
  · exact visibleScheme c inScheme
  · decide
  · decide
  · decide
  · have bounds := toNat_of_isLower (origin.host_letters c inHost)
    omega
  · rcases origin.mem_portText inPort with rfl | digit
    · decide
    · have bounds : 48 ≤ c.toNat ∧ c.toNat ≤ 57 := Char.isDigit_iff_toNat.mp digit
      omega

theorem scheme?_text (rest : List Char) :
    scheme? (origin.text ++ rest) =
      some (origin.scheme, '/' :: '/' :: (origin.host ++ origin.portText ++ rest)) := by
  rw [text, scheme]
  cases origin.secure <;> rfl

theorem ofName_scheme : SchemeKind.ofName origin.scheme = .web := by
  rw [scheme]
  cases origin.secure <;> decide

end Origin

section Authority

theorem endsAuthority_eq_false {kind : SchemeKind} {c : Char} (plain : c.isAlphanum = true) :
    endsAuthority kind c = false := by
  have noQuery : c ≠ '?' := Text.ne_of_test plain (by decide)
  have noFragment : c ≠ '#' := Text.ne_of_test plain (by decide)
  have noSlash : c ≠ '/' := Text.ne_of_test plain (by decide)
  have noBackslash : c ≠ '\\' := Text.ne_of_test plain (by decide)
  simp [endsAuthority, endsPath, SchemeKind.isSeparator, noQuery, noFragment, noSlash, noBackslash]

theorem takeHost_append {kind : SchemeKind} {host rest : List Char}
    (plain : ∀ c ∈ host, endsAuthority kind c = false ∧ c ≠ ':' ∧ c ≠ '[')
    (stops : ∀ c ∈ rest.head?, endsAuthority kind c = true ∨ c = ':') :
    takeHost kind false (host ++ rest) = host := by
  induction host with
  | nil =>
      cases rest with
      | nil => rfl
      | cons c others =>
          have stop : (endsAuthority kind c || (c == ':' && !false)) = true := by
            simpa using stops c rfl
          rw [List.nil_append, takeHost, if_pos stop]
  | cons c others ih =>
      obtain ⟨within, noColon, noBracket⟩ := plain c List.mem_cons_self
      have later := ih fun x inside => plain x (List.mem_cons_of_mem c inside)
      simp [takeHost, within, noColon, noBracket, later]

theorem afterPort?_digits {digits : List Char} (each : ∀ c ∈ digits, c.isDigit = true)
    (bounded : Nat.ofDigitChars 10 digits 0 ≤ 65535) (rest : List Char) :
    afterPort? (digits ++ '/' :: rest) = some ('/' :: rest) := by
  have stops : ∀ c ∈ ('/' :: rest).head?, c.isDigit = false := by
    intro c opens
    rw [← Option.mem_some.mp opens]
    rfl
  rw [afterPort?, Text.takeWhile_append_eq each stops, Text.dropWhile_append_eq each stops]
  simp [bounded]

theorem Origin.plain_host (origin : Origin) :
    ∀ c ∈ origin.host, endsAuthority .web c = false ∧ c ≠ ':' ∧ c ≠ '[' := by
  intro c inside
  have letter := origin.host_letters c inside
  have alphanumeric : c.isAlphanum = true := by simp [Char.isAlphanum, Char.isAlpha, letter]
  exact ⟨endsAuthority_eq_false alphanumeric, Text.ne_of_test letter (by decide),
    Text.ne_of_test letter (by decide)⟩

theorem Origin.plain_authority (origin : Origin) :
    ∀ c ∈ origin.host ++ origin.portText, endsAuthority .web c = false ∧ c ≠ '@' := by
  intro c inside
  rcases List.mem_append.mp inside with inHost | inPort
  · have other : c ≠ '@' := Text.ne_of_test (origin.host_letters c inHost) (by decide)
    exact ⟨(origin.plain_host c inHost).1, other⟩
  · rcases origin.mem_portText inPort with rfl | digit
    · decide
    · have alphanumeric : c.isAlphanum = true := by simp [Char.isAlphanum, digit]
      exact ⟨endsAuthority_eq_false alphanumeric, Text.ne_of_test digit (by decide)⟩

theorem authorityPath?_origin (origin : Origin) (rest : List Char) :
    authorityPath? .web (origin.host ++ origin.portText ++ '/' :: rest) =
      some (hierarchicalPath .web rest) := by
  have noUser : ∀ c ∈ (origin.host ++ origin.portText).reverse, (c != '@') = true := by
    intro c inside
    simpa using (origin.plain_authority c (List.mem_reverse.mp inside)).2
  have slash : ∀ c ∈ ('/' :: rest).head?, (!endsAuthority .web c) = false := by
    intro c opens
    rw [← Option.mem_some.mp opens]
    rfl
  have authority : (origin.host ++ origin.portText ++ '/' :: rest).takeWhile
      (!endsAuthority .web ·) = origin.host ++ origin.portText :=
    Text.takeWhile_append_eq (fun c inside => by simp [(origin.plain_authority c inside).1]) slash
  have afterUser : ((origin.host ++ origin.portText).reverse.takeWhile (· != '@')).reverse =
      origin.host ++ origin.portText := by
    rw [List.takeWhile_eq_self_iff.mpr noUser, List.reverse_reverse]
  have host : takeHost .web false (origin.host ++ origin.portText ++ '/' :: rest) =
      origin.host := by
    rw [List.append_assoc]
    apply takeHost_append origin.plain_host
    rw [Origin.portText]
    cases origin.port with
    | none => exact fun c opens => .inl (by simpa using slash c opens)
    | some digits => exact fun c opens => .inr (Option.mem_some.mp opens).symm
  have below : (origin.host ++ origin.portText ++ '/' :: rest).drop origin.host.length =
      origin.portText ++ '/' :: rest := by
    rw [List.append_assoc, List.drop_left]
  have given : origin.host.isEmpty = false := by simpa using origin.host_given
  have valid := isHost_letters origin.host_letters origin.host_given
  simp only [authorityPath?, authority, afterUser, Nat.sub_self, List.take_zero, List.drop_zero,
    host, below, given, valid]
  cases port : origin.port with
  | none =>
      have noPort : origin.portText = [] := by rw [Origin.portText, port]
      rw [noPort]
      simp [pathAfterHost, SchemeKind.isSeparator]
  | some digits =>
      have written : origin.portText = ':' :: digits := by rw [Origin.portText, port]
      have fits := afterPort?_digits (origin.port_digits digits port)
        (origin.port_bounded digits port) rest
      rw [written]
      simp [fits, pathAfterHost, SchemeKind.isSeparator]

end Authority

theorem visible_of_plain {c : Char} (plain : isEncodedInPath c = false) : 0x20 < c.toNat := by
  simp only [isEncodedInPath, isControlOrWide, Bool.or_eq_false_iff, decide_eq_false_iff_not,
    beq_eq_false_iff_ne] at plain
  have noControl : ¬ c.toNat < 0x20 := plain.1.1.1.1.1.1.1.1.1.1
  have noBlank : c.toNat ≠ ' '.toNat := fun same => plain.1.1.1.1.1.1.1.1.2 (Char.toNat_inj.mp same)
  change c.toNat ≠ 0x20 at noBlank
  omega

/-- The path of a URL of the web is what follows its origin, resolved and encoded. -/
theorem path?_eq (origin : Origin) {raw rest : List Char}
    (kept : withoutBreaks (trimMargins raw) = origin.text ++ '/' :: rest) :
    path? raw = some (hierarchicalPath .web rest) := by
  have scheme := origin.scheme?_text ('/' :: rest)
  have host : ('/' :: '/' :: (origin.host ++ origin.portText ++ '/' :: rest)).dropWhile
      SchemeKind.web.isSeparator = origin.host ++ origin.portText ++ '/' :: rest := by
    cases named : origin.host with
    | nil => exact absurd named origin.host_given
    | cons c others =>
        have letter := origin.host_letters c (by rw [named]; exact List.mem_cons_self)
        have noSlash : c ≠ '/' := Text.ne_of_test letter (by decide)
        have noBackslash : c ≠ '\\' := Text.ne_of_test letter (by decide)
        simp [SchemeKind.isSeparator, noSlash, noBackslash]
  simp only [path?, kept, scheme, origin.ofName_scheme, host, authorityPath?_origin]

/-- The path behind an origin is read as it is written. -/
theorem path?_origin (origin : Origin) {text : List Char}
    (plain : ∀ c ∈ text, isEncodedInPath c = false ∧ c ≠ '%' ∧ c ≠ '\\')
    (resolved : ∀ segment ∈ text.splitOn '/', segment ≠ ['.'] ∧ segment ≠ ['.', '.'])
    {suffix : List Char} (ends : ∀ c ∈ suffix.head?, endsPath c = true) :
    path? (origin.text ++ '/' :: (text ++ suffix)) = some ('/' :: text) := by
  have visible : ∀ c ∈ origin.text ++ '/' :: text, 0x20 < c.toNat := by
    intro c inside
    rcases List.mem_append.mp inside with inOrigin | inPath
    · exact (origin.visible_text c inOrigin).1
    · rcases List.mem_cons.mp inPath with rfl | inText
      · decide
      · exact visible_of_plain (plain c inText).1
  obtain ⟨rest, kept, opens⟩ := withoutBreaks_trimMargins visible ends
  rw [List.append_assoc, List.append_assoc, List.cons_append, List.cons_append] at kept
  rw [path?_eq origin kept, hierarchicalPath_eq plain resolved .web opens]

end ResourceRouter.Url
