import HeaderScan.Http.Probe
import HeaderScan.Proofs.Program.Checks
import HeaderScan.Proofs.Text.Utf8

/-!
# What a client says about a host

A client says that a host is no target without asking the network; otherwise what it says is
determined by the answer to one request. In the head of a response only the first field
counts whose name is the configured one, in any letter case. Blanks around a configured name
and its letter case make no difference to any client.
-/

namespace HeaderScan.Http

/-- Two texts differ at most in the case of their letters. -/
def AlikeInCase (first second : String) : Prop :=
  first.map Char.toLower = second.map Char.toLower

instance (first second : String) : Decidable (AlikeInCase first second) :=
  inferInstanceAs (Decidable (first.map Char.toLower = second.map Char.toLower))

/-- It is enough to compare them letter by letter. -/
theorem alikeInCase_iff {first second : String} : AlikeInCase first second ↔
    first.toList.map Char.toLower = second.toList.map Char.toLower := by
  rw [AlikeInCase, ← String.toList_map, ← String.toList_map, String.toList_inj]

namespace FieldName

/-- Every letter may stand in a name. -/
theorem isNameChar_of_isAlpha {c : Char} (h : c.isAlpha = true) : isNameChar c = true := by
  simp [isNameChar, Char.isAlphanum, h]

/-- The letter case does not matter to whether a character may stand in a name. -/
theorem isNameChar_toLower (c : Char) : isNameChar c.toLower = isNameChar c := by
  unfold Char.toLower
  split
  case isTrue hupper =>
    -- A capital and its small letter are both letters.
    have hcode : 65 ≤ c.toNat ∧ c.toNat ≤ 90 := by
      simpa [UInt32.le_iff_toNat_le] using hupper
    rw [isNameChar_of_isAlpha, isNameChar_of_isAlpha] <;>
      delta Char.isAlpha Char.isUpper Char.isLower <;>
      simp [UInt32.le_iff_toNat_le] <;>
      omega
  case isFalse => rfl

/-- Nor does it matter to whether characters spell a name. -/
theorem isName_map_toLower (chars : List Char) :
    isName (chars.map Char.toLower) = isName chars := by
  have hall : (chars.map Char.toLower).all isNameChar = chars.all isNameChar := by
    rw [List.all_map]
    exact congrArg chars.all (funext isNameChar_toLower)
  delta isName
  rw [hall, List.length_map, List.isEmpty_map]

/-- Texts that differ only in letter case spell the same name. -/
theorem ofText?_congr {first second : String} (h : AlikeInCase first second) :
    ofText? first = ofText? second := by
  have hchars := alikeInCase_iff.mp h
  have hname : isName first.toList = isName second.toList := by
    rw [← isName_map_toLower, hchars, isName_map_toLower]
  delta ofText?
  rw [hname, h]

end FieldName

namespace ClientBuilder

variable {builder : ClientBuilder} {client : Client} {name : String}

/-- The name that a text spells is the text between its blanks, in lower case. -/
theorem text_of_canonicalName {field : FieldName} (h : canonicalName name = .ok field) :
    field.text = (Text.trim name).map Char.toLower := by
  delta canonicalName FieldName.ofText? at h
  by_cases hname : FieldName.isName (Text.trim name).toList = true
  · rw [if_pos hname] at h
    cases h
    rfl
  · rw [if_neg hname] at h
    cases h

/-- A client looks for the configured name. -/
theorem canonicalName_of_build (h : builder.build = .ok client) :
    canonicalName (builder.header.getD defaultHeader) = .ok client.header := by
  unfold build at h
  obtain ⟨header, hheader, h⟩ := exists_of_bind h
  rw [hheader]
  split at h
  · cases h
    rfl
  · cases h

/-- A name that is spelled in another way makes the same client. -/
theorem build_setHeader (h : builder.build = .ok client)
    (halike : AlikeInCase (Text.trim name) (Text.trim (builder.header.getD defaultHeader))) :
    (builder.setHeader name).build = .ok client := by
  have hcanonical : canonicalName name = .ok client.header := by
    have hheader := canonicalName_of_build h
    unfold canonicalName at hheader ⊢
    rw [FieldName.ofText?_congr halike]
    split at hheader
    case h_1 => exact hheader
    case h_2 => cases hheader
  rw [← h]
  unfold build
  rw [canonicalName_of_build h]
  change (canonicalName name >>= _) = _
  rw [hcanonical]
  rfl

end ClientBuilder

namespace Head

/-- The value of the first field with a name, in any letter case. -/
def first? (head : Head) (name : String) : Option FieldValue :=
  (head.fields.find? fun field => AlikeInCase field.1 name).map Prod.snd

/-- A field is looked up by its name in lower case. -/
theorem get?_eq (head : Head) {field : FieldName} {name : String}
    (h : field.text = name.map Char.toLower) : head.get? field = head.first? name := by
  have hsame (sent : String) :
      (sent.map Char.toLower == field.text) = decide (AlikeInCase sent name) := by
    rw [h, beq_eq_decide]
    exact decide_eq_decide.mpr Iff.rfl
  simp only [get?, first?, hsame]

variable {head : Head} {field : FieldName} {text : String}

/-- A response carries the field when its first value is not empty; the text of this value is
what is found. -/
theorem status_eq_found_iff : head.status field = .found text ↔
    ∃ value, head.get? field = some value ∧ value.bytes ≠ [] ∧
      text = Text.decodeUtf8Lossy value.bytes := by
  unfold status
  cases head.get? field with
  | none => simp
  | some value =>
    by_cases hvalue : value.bytes = []
    · simp [hvalue]
    · simp [hvalue, FieldValue.text, eq_comm]

/-- A response does not carry the field when it is not there or its first value is empty. -/
theorem status_eq_missing_iff : head.status field = .missing head.code ↔
    ∀ value, head.get? field = some value → value.bytes = [] := by
  unfold status
  cases head.get? field with
  | none => simp
  | some value => by_cases hvalue : value.bytes = [] <;> simp [hvalue]

end Head

namespace Client

variable {client : Client} {network other : Network} {host : Host}

/-- The requests that a client makes for a host: one, unless the host is no URL or its URL is
not of a scheme that is requested. -/
def requests (client : Client) (host : Host) : List Request :=
  match host.url with
  | .error _ => []
  | .ok url => (Request.ofUrl client url).toOption.toList

/-- What becomes of requesting a URL. -/
def transport (network : Network) (client : Client) (url : Url) : Except RequestError Head :=
  Request.ofUrl client url >>= network.answer

/-- A host that is no URL is an error that names it. -/
theorem check_of_error {cause : Url.ParseError} (hurl : host.url = .error cause) :
    client.check network host =
      .error ("Cannot parse " ++ host.text ++ " as URL: " ++ cause.message) := by
  unfold check
  rw [hurl]
  rfl

/-- A response is looked into for the field of the client. -/
theorem check_of_head {url : Url} {head : Head} (hurl : host.url = .ok url)
    (hhead : client.transport network url = .ok head) :
    client.check network host = head.status client.header := by
  unfold transport at hhead
  unfold check
  simp only [hurl, hhead]

/-- Without a response there is a timeout or an error. -/
theorem check_of_requestError {url : Url} {error : RequestError} (hurl : host.url = .ok url)
    (herror : client.transport network url = .error error) :
    client.check network host = if error.isTimeout then .timeout else .error error.message := by
  unfold transport at herror
  unfold check
  simp only [hurl, herror]
  rfl

/-- Networks that give the same answers to the requests for a host give the same transport. -/
theorem transport_congr {url : Url} (hurl : host.url = .ok url)
    (h : ∀ request ∈ client.requests host, other.answer request = network.answer request) :
    client.transport other url = client.transport network url := by
  unfold requests at h
  rw [hurl] at h
  unfold transport
  cases hrequest : Request.ofUrl client url with
  | error error => rfl
  | ok request =>
    apply h
    simp [hrequest, Except.toOption]

/-- Nothing else than the answers to its requests is what a client learns from the network. -/
theorem check_congr (h : ∀ request ∈ client.requests host,
    other.answer request = network.answer request) :
    client.check other host = client.check network host := by
  cases hurl : host.url with
  | error cause => rw [check_of_error hurl, check_of_error hurl]
  | ok url =>
    have hsame := transport_congr hurl h
    cases htransport : client.transport network url with
    | error error =>
      rw [check_of_requestError hurl htransport,
        check_of_requestError hurl (hsame.trans htransport)]
    | ok head => rw [check_of_head hurl htransport, check_of_head hurl (hsame.trans htransport)]

/-- A client says nothing of a cancellation, and finds no empty value. -/
theorem check_cases (network : Network) (client : Client) (host : Host) :
    (∃ cause, client.check network host = .error cause) ∨
      client.check network host = .timeout ∨
      (∃ head : Head, client.check network host = .missing head.code) ∨
      ∃ text, client.check network host = .found text ∧ text ≠ "" := by
  cases hurl : host.url with
  | error cause => exact .inl ⟨_, check_of_error hurl⟩
  | ok url =>
    cases htransport : client.transport network url with
    | error error =>
      rw [check_of_requestError hurl htransport]
      cases error.isTimeout with
      | false => exact .inl ⟨_, rfl⟩
      | true => exact .inr (.inl rfl)
    | ok head =>
      rw [check_of_head hurl htransport]
      by_cases hvalue : ∀ value, head.get? client.header = some value → value.bytes = []
      · exact .inr (.inr (.inl ⟨head, Head.status_eq_missing_iff.mpr hvalue⟩))
      · simp only [not_forall] at hvalue
        obtain ⟨value, hget, hvalue⟩ := hvalue
        exact .inr (.inr (.inr ⟨_, Head.status_eq_found_iff.mpr ⟨value, hget, hvalue, rfl⟩,
          Text.decodeUtf8Lossy_ne_empty hvalue⟩))

/-- A network in which every server sends the field twice, at first in capitals. -/
def repeatingNetwork : Network where
  answer _ := .ok ⟨.ok, [("VIA", ⟨[0x31]⟩), ("via", ⟨[]⟩)]⟩
  latency _ := 0

/-- A name with blanks around it. -/
def blankBuilder : ClientBuilder := ClientBuilder.new.setHeader " Via\t"

end Client

end HeaderScan.Http
