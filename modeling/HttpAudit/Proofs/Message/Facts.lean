import HttpAudit.Message.Build
import HttpAudit.Message.FactsJson
import HttpAudit.Proofs.Json.Record

set_option relaxedAutoImplicit false
set_option autoImplicit false

/-!
# Facts survive their JSON form

Facts are read back from the text that is printed for them. A record's fields are found among the
members of an object by their names, so that neither the order of the members nor members of other
names make a difference; and a field that is missing gets its default value, while the others are
what they were.

## Main definitions

* `HttpAudit.RequestFacts.only`, `HttpAudit.ResponseFacts.only` — facts of which some fields are
  kept, with the others at their defaults.
* `HttpAudit.RequestFacts.fields`, `HttpAudit.ResponseFacts.fields` — the fields of facts, by name.
* `HttpAudit.Json.DecodesParts` — what a decoder makes of any part of a record's fields.

## Main results

* `HttpAudit.Json.decodesParts` — what a decoder that looks up members by name makes of parts.
* `HttpAudit.Exchange.facts_survive` — facts survive their JSON form.
-/

namespace HttpAudit

namespace Json

/-! ## Values within facts -/

section Values

variable {α : Type} {encode : α → Json} {decode : Json → Option α}

/-- A value that may be absent is decoded, if `null` is not among the values. -/
lemma optional?_ofOption {x : Option α} (h : ∀ a ∈ x, decode (encode a) = some a)
    (hnull : ∀ a, encode a ≠ .null) : optional? decode (ofOption encode x) = some x := by
  cases x with
  | none => rfl
  | some a =>
    rw [ofOption, optional?, h a rfl]
    · rfl
    · exact hnull a

/-- A list is decoded if its elements are. -/
lemma list?_ofList {xs : List α} (h : ∀ a ∈ xs, decode (encode a) = some a) :
    list? decode (ofList encode xs) = some xs := by
  rw [ofList, list?]
  induction xs with
  | nil => rfl
  | cons a xs ih =>
    obtain ⟨ha, hxs⟩ := List.forall_mem_cons.mp h
    rw [List.map_cons, List.mapM_cons, ha, ih hxs]
    rfl

/-- A pair is decoded if its value is. -/
lemma pair?_ofEntry {entry : String × α} (h : decode (encode entry.2) = some entry.2) :
    pair? decode (ofEntry encode entry) = some entry := by
  rw [ofEntry, pair?, h]
  rfl

/-- A list of pairs is decoded if their values are. -/
lemma list?_ofEntry (h : ∀ a, decode (encode a) = some a) (entries : List (String × α)) :
    list? (pair? decode) (ofList (ofEntry encode) entries) = some entries :=
  list?_ofList fun entry _ => pair?_ofEntry (h entry.2)

/-- A field that is kept is decoded, and one that is missing gets its default. -/
lemma orDefault?_ite {default a : α} {j : Json} (h : decode j = some a) (keep : Bool) :
    orDefault? default decode (if keep then some j else none) =
      some (if keep then a else default) := by
  cases keep with
  | false => rfl
  | true => exact h

/-- A value that may be absent nests no deeper than what it may be. -/
lemma exact_ofOption {depth : Nat} {x : Option α} (h : ∀ a ∈ x, Exact depth (encode a)) :
    Exact depth (ofOption encode x) := by
  cases x with
  | none => exact .null
  | some a => exact h a rfl

/-- A list nests one level deeper than its elements. -/
lemma exact_ofList {depth : Nat} {xs : List α} (h : ∀ a ∈ xs, Exact depth (encode a)) :
    Exact (depth + 1) (ofList encode xs) :=
  .array (List.forall_mem_map.mpr h)

/-- A list of pairs nests two levels deeper than their values. -/
lemma exact_ofEntry {depth : Nat} {entries : List (String × α)}
    (h : ∀ entry ∈ entries, Exact depth (encode entry.2)) :
    Exact (depth + 2) (ofList (ofEntry encode) entries) := by
  refine exact_ofList fun entry hentry => .array ?_
  rw [List.forall_mem_cons, List.forall_mem_singleton]
  exact ⟨.string entry.1, h entry hentry⟩

end Values

/-! ## Parts of a record -/

/-- A decoder, and its reader of texts, make of any part of a record's fields the record of which
only these are kept. -/
structure DecodesParts {α : Type} (decode : Json → Option α) (decodeText : String → Option α)
    (fields : List (String × Json)) (only : (String → Bool) → α) : Prop where
  /-- Some of the fields are members of an object, in any order and among any others. -/
  object : ∀ {members : List (String × Json)}, IsPart fields members →
    decode (.object members) = some (only (hasName members))
  /-- The same for a text, whatever values the others have. But no field may stand twice. -/
  text : ∀ {names : List String} {b t b' : List Char}, Blanks b → SpellsRecord fields names t →
    Blanks b' → decodeText (.ofList (b ++ (t ++ b'))) =
      if (names.filter (hasName fields)).Nodup then some (only names.contains) else none
  /-- What is printed for the value of a field is read as it. -/
  printed : ∀ f ∈ fields, ReadAs (maxDepth - 1) f.2.renderChars f.2

variable {α : Type} {decode : Json → Option α} {fields : List (String × Json)}
  {only : (String → Bool) → α}

/-- A decoder that looks up the fields by their names decodes parts of them.

**Proof sketch.** What is found under the name of a field is the field or nothing (`IsPart.lookup`),
also in the object that the fields in a text are put into (`SpellsRecord.decodeText?_eq`). -/
lemma decodesParts {names : List String} (hnames : fields.map Prod.fst = names)
    (hnodup : names.Nodup) (hexact : ∀ f ∈ fields, Exact (maxDepth - 1) f.2)
    (hdecode : ∀ (keep : String → Bool) (j : Json),
      members? names j = some (fields.map fun f => if keep f.1 then some f.2 else none) →
        decode j = some (only keep)) :
    DecodesParts decode (decodeText? names decode) fields only := by
  subst hnames
  have hfound : ∀ {keep : String → Bool} {found : List (String × Json)},
      (∀ f ∈ fields, found.lookup f.1 = if keep f.1 then some f.2 else none) →
        decode (.object found) = some (only keep) := by
    intro keep found hlookup
    refine hdecode _ _ ?_
    rw [members?, List.map_map]
    exact congrArg some (List.map_congr_left hlookup)
  refine ⟨fun hpart => hfound fun f hf => hpart.lookup hnodup hf,
    fun hb ht hb' => ?_, fun f hf => (hexact f hf).readAs⟩
  rw [ht.decodeText?_eq hnodup hb hb']
  split_ifs with hdistinct
  · exact hfound fun f hf => lookup_collect_taken hnodup hdistinct hf
  · rfl

/-- The text that is printed for all fields is decoded as the record with all of them. -/
lemma DecodesParts.render {decodeText : String → Option α} {record : α}
    (h : DecodesParts decode decodeText fields only) (hnodup : (fields.map Prod.fst).Nodup)
    (hall : only (fields.map Prod.fst).contains = record) :
    decodeText (Json.object fields).render = some record := by
  have htext := h.text blanks_nil (spellsRecord_render h.printed) blanks_nil
  rw [List.nil_append, List.append_nil, if_pos (hnodup.filter _), hall] at htext
  exact htext

end Json

/-! ## Headers -/

/-- The value of a header is decoded: whether it is one or several can be told from its shape. -/
lemma HeaderValue.ofJson?_toJson (value : HeaderValue) : ofJson? value.toJson = some value := by
  cases value with
  | single value => rfl
  | multiple values =>
    have hlist : Json.list? Json.text? (Json.ofList .string values) = some values :=
      Json.list?_ofList fun _ _ => rfl
    rw [toJson, Json.ofList] at *
    rw [ofJson?, hlist]
    · rfl
    · exact fun _ h => Json.noConfusion h

/-- The value of a header is exact. -/
lemma HeaderValue.exact_toJson (value : HeaderValue) : Json.Exact 1 value.toJson := by
  cases value with
  | single value => exact .string value
  | multiple values => exact Json.exact_ofList fun s _ => .string s

/-! ## Requests and responses -/

/-- The facts of which only the named fields are kept. The others have their defaults. -/
def RequestFacts.only (facts : RequestFacts) (keep : String → Bool) : RequestFacts :=
  let blank : RequestFacts := {}
  { method := if keep "method" then facts.method else blank.method
    protocol := if keep "protocol" then facts.protocol else blank.protocol
    hostname := if keep "hostname" then facts.hostname else blank.hostname
    url := if keep "url" then facts.url else blank.url
    headers := if keep "headers" then facts.headers else blank.headers
    bodyParams := if keep "body_params" then facts.bodyParams else blank.bodyParams
    queryParams := if keep "query_params" then facts.queryParams else blank.queryParams
    session := if keep "session" then facts.session else blank.session }

/-- The facts of which only the named fields are kept. The others have their defaults. -/
def ResponseFacts.only (facts : ResponseFacts) (keep : String → Bool) : ResponseFacts :=
  let blank : ResponseFacts := {}
  { statusCode := if keep "status_code" then facts.statusCode else blank.statusCode
    headers := if keep "headers" then facts.headers else blank.headers }

/-- The fields of a request, by name. -/
def RequestFacts.fields (facts : RequestFacts) : List (String × Json) :=
  memberNames.zip facts.memberValues

/-- The fields of a response, by name. -/
def ResponseFacts.fields (facts : ResponseFacts) : List (String × Json) :=
  memberNames.zip facts.memberValues

/-- The fields of a request nest less deep than what can be read, if the values of its session leave
room for the lists they are in. -/
lemma RequestFacts.exact_fields {facts : RequestFacts} {depth : Nat}
    (hdepth : depth + 3 ≤ Json.maxDepth)
    (hsession : ∀ entry ∈ facts.session, Json.Exact depth entry.2) :
    ∀ f ∈ facts.fields, Json.Exact (Json.maxDepth - 1) f.2 := by
  have htext (x : Option String) : Json.Exact (Json.maxDepth - 1) (Json.ofOption .string x) :=
    Json.exact_ofOption fun s _ => .string s
  have hparams (params : List (String × String)) :
      Json.Exact (Json.maxDepth - 1) (Json.ofList (Json.ofEntry .string) params) := by
    have hvalues : ∀ entry ∈ params, Json.Exact 0 (.string entry.2) := fun entry _ => .string _
    exact (Json.exact_ofEntry hvalues).mono (by decide)
  have hheaders : Json.Exact (Json.maxDepth - 1)
      (Json.ofList (Json.ofEntry HeaderValue.toJson) facts.headers) :=
    (Json.exact_ofEntry fun entry _ => entry.2.exact_toJson).mono (by decide)
  have hentries : Json.Exact (Json.maxDepth - 1) (Json.ofList (Json.ofEntry id) facts.session) :=
    (Json.exact_ofEntry hsession).mono (by omega)
  intro f hf
  have hvalue : f.2 ∈ facts.memberValues := (List.of_mem_zip hf).2
  simp only [memberValues, List.mem_cons, List.not_mem_nil, or_false] at hvalue
  obtain h | h | h | h | h | h | h | h := hvalue <;> rw [h]
  · exact htext _
  · exact htext _
  · exact htext _
  · exact htext _
  · exact hheaders
  · exact hparams _
  · exact hparams _
  · exact hentries

/-- The fields of a response nest less deep than what can be read. -/
lemma ResponseFacts.exact_fields {facts : ResponseFacts}
    (hcode : ∀ code ∈ facts.statusCode, code < 2 ^ 16) :
    ∀ f ∈ facts.fields, Json.Exact (Json.maxDepth - 1) f.2 := by
  intro f hf
  have hvalue : f.2 ∈ facts.memberValues := (List.of_mem_zip hf).2
  simp only [memberValues, List.mem_cons, List.not_mem_nil, or_false] at hvalue
  obtain h | h := hvalue <;> rw [h]
  · refine Json.exact_ofOption fun code hmem => .natural ?_
    exact Nat.lt_trans (hcode code hmem) (by decide)
  · exact (Json.exact_ofEntry fun entry _ => entry.2.exact_toJson).mono (by decide)

/-- Any part of the fields of a request is decoded. -/
lemma RequestFacts.decodesParts {facts : RequestFacts} {depth : Nat}
    (hdepth : depth + 3 ≤ Json.maxDepth)
    (hsession : ∀ entry ∈ facts.session, Json.Exact depth entry.2) :
    Json.DecodesParts ofJson? ofText? facts.fields facts.only := by
  have hnames : facts.fields.map Prod.fst = memberNames := rfl
  refine Json.decodesParts hnames (by decide) (exact_fields hdepth hsession)
    fun keep j hfound => ?_
  have htext (x : Option String) :
      Json.optional? Json.text? (Json.ofOption .string x) = some x :=
    Json.optional?_ofOption (fun _ _ => rfl) (fun _ h => Json.noConfusion h)
  have hparams (params : List (String × String)) :
      Json.list? (Json.pair? Json.text?) (Json.ofList (Json.ofEntry .string) params) =
        some params :=
    Json.list?_ofEntry (α := String) (fun _ => rfl) params
  have hheaders := Json.list?_ofEntry HeaderValue.ofJson?_toJson facts.headers
  have hentries : Json.list? (Json.pair? some) (Json.ofList (Json.ofEntry id) facts.session) =
      some facts.session :=
    Json.list?_ofEntry (α := Json) (fun _ => rfl) facts.session
  rw [ofJson?, hfound]
  simp only [fields, memberNames, memberValues, List.zip_cons_cons, List.zip_nil_right,
    List.map_cons, List.map_nil, Option.bind_eq_bind, Option.bind_some,
    Json.orDefault?_ite (htext _), Json.orDefault?_ite (hparams _),
    Json.orDefault?_ite hheaders, Json.orDefault?_ite hentries]
  rfl

/-- Any part of the fields of a response is decoded. -/
lemma ResponseFacts.decodesParts {facts : ResponseFacts}
    (hcode : ∀ code ∈ facts.statusCode, code < 2 ^ 16) :
    Json.DecodesParts ofJson? ofText? facts.fields facts.only := by
  have hnames : facts.fields.map Prod.fst = memberNames := rfl
  refine Json.decodesParts hnames (by decide) (exact_fields hcode) fun keep j hfound => ?_
  have hstatus : Json.optional? Json.word16?
      (Json.ofOption (fun n => .number (.natural n)) facts.statusCode) = some facts.statusCode :=
    Json.optional?_ofOption (fun code h => if_pos (hcode code h)) (fun _ h => Json.noConfusion h)
  have hheaders := Json.list?_ofEntry HeaderValue.ofJson?_toJson facts.headers
  rw [ofJson?, hfound]
  simp only [fields, memberNames, memberValues, List.zip_cons_cons, List.zip_nil_right,
    List.map_cons, List.map_nil, Option.bind_eq_bind, Option.bind_some,
    Json.orDefault?_ite hstatus, Json.orDefault?_ite hheaders]
  rfl

/-- **Facts survive their JSON form.** Let the values of a session be without double precision
numbers, and so deep at most that the facts, which are three levels around them, can be read; and
let the status code have sixteen bits. Then request and response are decoded from the texts that are
printed for them, and the message made of what is decoded is that of the facts themselves. From an
object with any part of the fields, in any order and among members of any other names, facts are
decoded that have these fields and otherwise their defaults. The same goes for the text of such an
object, with blanks wherever the format allows them. A field may have any text there that is read as
its value, as the one is that is printed for it; and the other members may have any values that the
format has, even such as cannot be read. Only if a field stands twice, nothing is decoded.

**Proof sketch.** A value without double precision numbers is read back (`Json.Exact.readAs`), since
a number ends where the next digit is missing and a text at its quotation mark. Other values are
skipped (`Json.IsPiece.isSkipped`). Fields are found by their names (`Json.decodesParts`), and the
value of each is decoded as what it was made of: an absent value is the only one that is `null`, and
whether a header has one value or several shows in its shape. -/
theorem Exchange.facts_survive {depth : Nat} (hdepth : depth + 3 ≤ Json.maxDepth)
    {request : RequestFacts} (hsession : ∀ entry ∈ request.session, Json.Exact depth entry.2)
    {response : ResponseFacts} (hcode : ∀ code ∈ response.statusCode, code < 2 ^ 16) :
    RequestFacts.ofText? request.toJson.render = some request ∧
      ResponseFacts.ofText? response.toJson.render = some response ∧
      (∀ responseBody requestBody : Option String,
        (do
          let request ← RequestFacts.ofText? request.toJson.render
          let response ← ResponseFacts.ofText? response.toJson.render
          some (Exchange.mk request response responseBody requestBody).message) =
        some (Exchange.mk request response responseBody requestBody).message) ∧
      Json.DecodesParts RequestFacts.ofJson? RequestFacts.ofText? request.fields request.only ∧
      Json.DecodesParts ResponseFacts.ofJson? ResponseFacts.ofText? response.fields
        response.only := by
  have hrequestParts := RequestFacts.decodesParts hdepth hsession
  have hresponseParts := ResponseFacts.decodesParts hcode
  have hrequest : RequestFacts.ofText? request.toJson.render = some request :=
    hrequestParts.render (by decide : RequestFacts.memberNames.Nodup) rfl
  have hresponse : ResponseFacts.ofText? response.toJson.render = some response :=
    hresponseParts.render (by decide : ResponseFacts.memberNames.Nodup) rfl
  refine ⟨hrequest, hresponse, fun responseBody requestBody => ?_, hrequestParts, hresponseParts⟩
  rw [hrequest, hresponse]
  rfl

/-- A session with the least integer and a header with no values are read back. Of the fields only
the headers are left, behind a member with a number that is too large and half a character: the
headers are decoded, and the rest has its defaults. -/
theorem Exchange.facts_survive_sampled :
    RequestFacts.ofText? (RequestFacts.toJson
        { url := some "", headers := [("A", .multiple []), ("a", .single "é\n")],
          session := [("s", .object [("k", .array [.number (.negative (Nat.pow 2 63))]),
            ("l", .null)])] }).render =
      some { url := some "", headers := [("A", .multiple []), ("a", .single "é\n")],
             session := [("s", .object [("k", .array [.number (.negative (Nat.pow 2 63))]),
               ("l", .null)])] } ∧
      ResponseFacts.ofText? (ResponseFacts.toJson { statusCode := some 65535 }).render =
        some { statusCode := some 65535 } ∧
      RequestFacts.ofText?
          " \x7b\"Url\" :[1e999,\"\\uD800\"], \"headers\":[[\"A\",[]],[\"a\",\"é\\n\"]]\x7d" =
        some { headers := [("A", .multiple []), ("a", .single "é\n")] } := by
  let request : RequestFacts :=
    { url := some "", headers := [("A", .multiple []), ("a", .single "é\n")],
      session := [("s", .object [("k", .array [.number (.negative (Nat.pow 2 63))]),
        ("l", .null)])] }
  let response : ResponseFacts := { statusCode := some 65535 }
  have hsession : ∀ entry ∈ request.session, Json.Exact 99 entry.2 := by
    refine List.forall_mem_singleton.mpr (.object (by decide) ?_)
    rw [List.forall_mem_cons, List.forall_mem_singleton]
    exact ⟨.array (List.forall_mem_singleton.mpr (.negative (by decide) (Nat.le_refl _))), .null⟩
  have hcode : ∀ code ∈ response.statusCode, code < 2 ^ 16 := by
    rintro code ⟨⟩
    decide
  obtain ⟨hrequest, hresponse, -, hparts, -⟩ := facts_survive (by decide) hsession hcode
  refine ⟨hrequest, hresponse, ?_⟩
  have hfields : request.fields.map Prod.fst = RequestFacts.memberNames := rfl
  have hblank : Json.Blanks [' '] := List.forall_mem_singleton.mpr rfl
  let headers := Json.ofList (Json.ofEntry HeaderValue.toJson) request.headers
  have hheaders : Json.SpellsMember request.fields "headers"
      (Json.renderMembers [("headers", headers)]) := by
    have hfield : ("headers", headers) ∈ request.fields := List.getElem_mem (n := 4) (by decide)
    exact Json.spellsMember_render hfield (hparts.printed _ hfield)
  have hnumber : Json.IsNumber ['1', 'e', '9', '9', '9'] := by
    have hexponent : Json.IsExponent ['e', '9', '9', '9'] :=
      .digits (.inl rfl) (.inl rfl) ⟨List.cons_ne_nil _ _, List.all_eq_true.mp rfl⟩
    have hinteger : Json.IsInteger ['1'] :=
      .digits ⟨List.cons_ne_nil _ _, List.all_eq_true.mp rfl⟩ (by decide)
    exact .parts (.inl rfl) hinteger .none hexponent
  have hquotable : Json.IsQuotable ['\\', 'u', 'D', '8', '0', '0'] := .unit rfl .nil
  have hother : Json.SpellsMember request.fields "Url" _ :=
    .parts (Json.spellsText_flatMap_escape "Url".toList) hblank Json.blanks_nil
      (.other (by rw [Json.hasName, hfields]; decide)
        (.array (.item Json.blanks_nil (.number hnumber) Json.blanks_nil
          (.lastItem Json.blanks_nil (.text hquotable) Json.blanks_nil))))
  have hdecoded := hparts.text hblank (.members (.cons Json.blanks_nil hother Json.blanks_nil
    (.single hblank hheaders Json.blanks_nil))) Json.blanks_nil
  have hnames : ["Url", "headers"].filter (Json.hasName request.fields) = ["headers"] := by
    unfold Json.hasName
    rw [hfields, List.filter_cons_of_neg (by decide), List.filter_cons_of_pos (by decide),
      List.filter_nil]
  rw [hnames, if_pos (List.nodup_singleton _)] at hdecoded
  refine Eq.trans (congrArg RequestFacts.ofText? ?_) hdecoded
  decide +kernel

end HttpAudit
