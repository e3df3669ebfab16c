import HttpAudit.Logger.Basic
import HttpAudit.Proofs.Message.Text
import HttpAudit.Proofs.Policy.Strict
import HttpAudit.Proofs.Text.Lowercase
import Mathlib.Data.List.TakeWhile

set_option relaxedAutoImplicit false
set_option autoImplicit false

/-!
# What a logger with the strict rules reveals

A logger without rules of its own and without default rules applies the strict policy. This is to
keep bodies, parameters and sessions out of the text of an exchange, and the URL from its first
question mark or semicolon on. It does so as long as there is no line feed in the names of the
parameters and in this part of the URL. Here it is shown what is left of them in any case, and that
the text of an exchange depends on nothing else of them.

## Main definitions

* `HttpAudit.Exchange.Alike` — exchanges that differ in what is to be kept out only.
* `HttpAudit.Exchange.urlResidue`, `HttpAudit.Exchange.paramResidue` — what is left of the URL and
  of the parameters.

## Main results

* `HttpAudit.Exchange.filterMap_fate_message` — the fields that are kept.
* `HttpAudit.Exchange.urlResidue_eq_nil`, `HttpAudit.Exchange.paramResidue_eq_nil` — without line
  feeds nothing is left.
* `HttpAudit.Logger.format_eq_iff_residue` — alike exchanges have the same text if the same is left
  of them.
-/

namespace HttpAudit

namespace Exchange

open Strict

/-- The exchanges agree on the method, the protocol, the host name, the status code, the headers,
and on the URL up to its first question mark or semicolon. -/
structure Alike (e₁ e₂ : Exchange) : Prop where
  /-- They have the same method. -/
  method : e₁.request.method = e₂.request.method
  /-- They have the same protocol. -/
  protocol : e₁.request.protocol = e₂.request.protocol
  /-- They have the same host name. -/
  hostname : e₁.request.hostname = e₂.request.hostname
  /-- Both have a URL or both have none, and their URLs are the same up to the first cut. -/
  url : e₁.request.url.map (uncut ·.toList) = e₂.request.url.map (uncut ·.toList)
  /-- They have the same request headers. -/
  requestHeaders : e₁.request.headers = e₂.request.headers
  /-- They have the same status code. -/
  statusCode : e₁.response.statusCode = e₂.response.statusCode
  /-- They have the same response headers. -/
  responseHeaders : e₁.response.headers = e₂.response.headers

/-- The URL of the message in two parts: the protocol with the host name, and the URL of the
request. All of them must be known. -/
def urlParts (e : Exchange) : Option (List Char × List Char) :=
  match e.request.protocol, e.request.hostname, e.request.url with
  | some protocol, some hostname, some url =>
    some ((protocol ++ "://" ++ hostname).toList, url.toList)
  | _, _, _ => none

/-- What is left of the URL from its first cut on: behind the first line feed there, the text goes
on as if it were not behind a cut. -/
def urlResidue (e : Exchange) : List Char :=
  match e.urlParts with
  | some (_, url) => clip (fromLineFeed (fromCut url))
  | none => []

/-- What is left of the parameters: the fields of those that have a line feed in their names, and
a value. -/
def paramResidue (e : Exchange) : List (String × String) :=
  paramFields ((e.request.bodyParams ++ e.request.queryParams).filter fun param =>
    param.1.toList.contains '\n' && !param.2.isEmpty)

/-- Without a line feed from the first cut on, nothing is left of the URL from there on. -/
lemma urlResidue_eq_nil {e : Exchange} (h : ∀ parts ∈ e.urlParts, '\n' ∉ fromCut parts.2) :
    e.urlResidue = [] := by
  unfold urlResidue
  cases hparts : e.urlParts with
  | none => rfl
  | some parts =>
    have hline : fromLineFeed (fromCut parts.2) = [] := by
      rw [fromLineFeed, List.dropWhile_eq_nil_iff]
      intro c hc
      rw [bne_iff_ne]
      rintro rfl
      exact h parts hparts hc
    simp only [hline, clip]

/-- Without line feeds in their names, nothing is left of the parameters. -/
lemma paramResidue_eq_nil {e : Exchange}
    (h : ∀ param ∈ e.request.bodyParams ++ e.request.queryParams, '\n' ∉ param.1.toList) :
    e.paramResidue = [] := by
  have hnone : ((e.request.bodyParams ++ e.request.queryParams).filter fun param =>
      param.1.toList.contains '\n' && !param.2.isEmpty) = [] := by
    rw [List.filter_eq_nil_iff]
    intro param hparam
    simp [h param hparam]
  rw [paramResidue, hnone]
  rfl

/-! ## The fields that are kept -/

/-- The URL up to its first cut, as it is kept. -/
def urlStart (e : Exchange) : Option (List Char) :=
  e.urlParts.map fun parts => clip (parts.1 ++ uncut parts.2)

/-- Alike exchanges have the same URL up to its first cut. -/
lemma Alike.urlStart_eq {e₁ e₂ : Exchange} (h : e₁.Alike e₂) : e₁.urlStart = e₂.urlStart := by
  have hurl := h.url
  unfold urlStart urlParts
  rw [h.protocol, h.hostname]
  cases h₁ : e₁.request.url with
  | none =>
    rw [h₁] at hurl
    rw [Option.map_eq_none_iff.mp hurl.symm]
  | some url₁ =>
    rw [h₁] at hurl
    obtain ⟨url₂, h₂, heq⟩ := Option.map_eq_some_iff.mp hurl.symm
    rw [h₂]
    split <;> split <;> simp_all

/-- Nothing is left of a URL that is no part of the message. -/
lemma urlResidue_of_urlStart {e : Exchange} (h : e.urlStart = none) : e.urlResidue = [] := by
  rw [urlResidue, Option.map_eq_none_iff.mp h]

/-- The fields of the URL, by its parts. -/
lemma urlFields_eq (e : Exchange) :
    urlFields e.request = e.urlParts.toList.map fun parts =>
      ("request_url", String.ofList (parts.1 ++ parts.2)) := by
  unfold urlFields urlParts
  cases e.request.protocol <;> cases e.request.hostname <;> cases e.request.url <;>
    simp only [Option.toList_some, Option.toList_none, List.map_cons, List.map_nil,
      ← String.toList_append, String.ofList_toList]

/-- The protocol is followed by a character that no text is cut at. -/
lemma exists_uncut {e : Exchange} {parts : List Char × List Char} (h : e.urlParts = some parts) :
    ∃ c ∈ parts.1, isCut c = false := by
  unfold urlParts at h
  split at h
  · obtain rfl := Option.some.inj h
    exact ⟨':', by simp, rfl⟩
  · cases h

/-- The field of the URL as it is kept. -/
lemma filterMap_fate_urlFields (e : Exchange) :
    (urlFields e.request).filterMap policy.fate =
      e.urlStart.toList.map fun start => ("request_url", .ofList (start ++ e.urlResidue)) := by
  rw [urlFields_eq, urlStart, urlResidue]
  cases hparts : e.urlParts with
  | none => rfl
  | some parts =>
    obtain ⟨front, url⟩ := parts
    obtain ⟨c, hc, huncut⟩ := exists_uncut hparts
    have hne : (String.ofList (front ++ url)).isEmpty = false := by
      rw [← Bool.not_eq_true, String.isEmpty_iff, String.ofList_eq_empty_iff]
      exact List.ne_nil_of_mem (List.mem_append_left _ hc)
    have hclip : clip (front ++ url) =
        clip (front ++ uncut url) ++ clip (fromLineFeed (fromCut url)) := by
      rw [← clip_append ⟨c, List.mem_append_left _ hc, huncut⟩ head_fromCut, List.append_assoc]
      rw [uncut, fromCut, List.takeWhile_append_dropWhile]
    have hfate : policy.fate ("request_url", .ofList (front ++ url)) =
        some ("request_url", .ofList
          (clip (front ++ uncut url) ++ clip (fromLineFeed (fromCut url)))) := by
      rw [fate_url, hne, String.toList_ofList, hclip]
      rfl
    simp only [Option.toList_some, Option.map_some, List.map_cons, List.map_nil]
    rw [List.filterMap_cons_some hfate, List.filterMap_nil]

/-- What becomes of a parameter. -/
lemma fate_paramField (name value : String) :
    policy.fate (familyField "request_param" name value) =
      if name.toList.contains '\n' && !value.isEmpty then
        some (familyField "request_param" name value) else none := by
  have hname : (familyField "request_param" name value).1.toList =
      "request_param:".toList ++ Text.lowercase name.toList := by
    have hfamily : "request_param".toList ++ ":".toList = "request_param:".toList := by decide
    simp only [familyField, String.toList_append, String.toList_ofList, hfamily]
  have hcontains : (familyField "request_param" name value).1.toList.contains '\n' =
      name.toList.contains '\n' := by
    have hprefix : '\n' ∉ "request_param:".toList := by decide
    rw [Bool.eq_iff_iff, List.contains_iff_mem, List.contains_iff_mem, hname, List.mem_append,
      Text.lineFeed_mem_lowercase_iff]
    exact or_iff_right hprefix
  rw [← hcontains]
  exact fate_param hname value

/-- The fields of the parameters that are kept, where those that pass a test are. -/
lemma filterMap_paramFields {fate : String × String → Option (String × String)}
    {test : String × String → Bool}
    (h : ∀ name value, fate (familyField "request_param" name value) =
      if test (name, value) then some (familyField "request_param" name value) else none)
    (params : List (String × String)) :
    (paramFields params).filterMap fate = paramFields (params.filter test) := by
  induction params with
  | nil => rfl
  | cons param params ih =>
    obtain ⟨name, value⟩ := param
    unfold paramFields at ih ⊢
    rw [List.map_cons, List.filterMap_cons, h, List.filter_cons, ih]
    cases test (name, value) <;> simp

/-- No body is kept. -/
lemma filterMap_fate_bodyFields {name : String} (h : name = "request_body" ∨ name = "response_body")
    (body : Option String) : (bodyFields name body).filterMap policy.fate = [] := by
  cases body with
  | none => rfl
  | some body =>
    rw [bodyFields]
    split_ifs
    · rfl
    · simp [fate_body h]

/-- The fields of the parameters that are kept. -/
lemma filterMap_fate_paramFields (e : Exchange) :
    (paramFields (e.request.bodyParams ++ e.request.queryParams)).filterMap policy.fate =
      e.paramResidue :=
  filterMap_paramFields fate_paramField _

/-- **What is kept.** The fields of the exchange that the strict policy keeps: the URL up to its
first cut with what is left of the rest, what is left of the parameters, and of the other fields
what does not depend on these.

**Proof sketch.** The policy decides field by field, so that the families of fields are treated one
after the other. -/
lemma filterMap_fate_message (e : Exchange) :
    e.message.fields.filterMap policy.fate =
      (methodFields e.request).filterMap policy.fate ++
        e.urlStart.toList.map (fun start => ("request_url", .ofList (start ++ e.urlResidue))) ++
        ((statusFields e.response).filterMap policy.fate ++
          (headerFields "request_header" e.request.headers).filterMap policy.fate) ++
        e.paramResidue ++
        (headerFields "response_header" e.response.headers).filterMap policy.fate := by
  simp only [message, List.filterMap_append, filterMap_fate_urlFields, filterMap_fate_paramFields,
    filterMap_fate_bodyFields, true_or, or_true, List.append_nil, List.append_assoc]

/-- The fields that are kept are the same if what is left is, so long as nothing is left where there
is no URL. -/
lemma kept_eq_iff {first middle last params₁ params₂ : List (String × String)}
    {start : Option (List Char)} {url₁ url₂ : List Char} (h : start = none → url₁ = url₂) :
    (first ++ start.toList.map (fun s => ("request_url", String.ofList (s ++ url₁))) ++ middle ++
        params₁ ++ last =
      first ++ start.toList.map (fun s => ("request_url", String.ofList (s ++ url₂))) ++ middle ++
        params₂ ++ last) ↔ url₁ = url₂ ∧ params₁ = params₂ := by
  simp only [List.append_assoc, List.append_cancel_left_eq]
  cases start with
  | none => simp [h rfl]
  | some s =>
    simp only [Option.toList_some, List.map_cons, List.map_nil, List.cons_append, List.nil_append,
      List.append_cancel_left_eq, List.append_cancel_right_eq, List.cons.injEq, Prod.mk.injEq,
      true_and, String.ofList_inj]

/-- Of alike exchanges the same fields are kept if the same is left of them. -/
lemma Alike.filterMap_fate_eq_iff {e₁ e₂ : Exchange} (h : e₁.Alike e₂) :
    e₁.message.fields.filterMap policy.fate = e₂.message.fields.filterMap policy.fate ↔
      e₁.urlResidue = e₂.urlResidue ∧ e₁.paramResidue = e₂.paramResidue := by
  have hnone (hstart : e₂.urlStart = none) : e₁.urlResidue = e₂.urlResidue := by
    rw [urlResidue_of_urlStart (h.urlStart_eq.trans hstart), urlResidue_of_urlStart hstart]
  have hmethod : methodFields e₁.request = methodFields e₂.request := by
    rw [methodFields, methodFields, h.method]
  have hstatus : statusFields e₁.response = statusFields e₂.response := by
    rw [statusFields, statusFields, h.statusCode]
  rw [filterMap_fate_message, filterMap_fate_message, h.urlStart_eq, hmethod, hstatus,
    h.requestHeaders, h.responseHeaders]
  exact kept_eq_iff hnone

end Exchange

namespace Logger

open Exchange

/-! ## The text of an exchange -/

/-- A logger without rules and without default rules can be made, and has the strict policy. -/
lemma create_strict (files : Files) {options : LoggerOptions} (hrules : options.rules = none)
    (hdefaults : options.defaultRules = none) :
    ∃ l, create files options = .ok l ∧ l.policy = Strict.policy := by
  have hresolve : Policy.resolve files (options.defaultRules.getD .strict) options.rules =
      .ok Strict.policy := by
    have hload : resolveRules files .strict none = .ok Canned.strict.text := rfl
    rw [hrules, hdefaults, Option.getD_none, Policy.resolve, hload]
    exact bind_eq_ok_iff.mpr ⟨_, rfl, Strict.ofText_strict⟩
  unfold create
  rw [hresolve]
  exact ⟨_, rfl, rfl⟩

/-- Messages with the same trailer have the same text if they have the same fields. -/
lemma toJson_addTo_inj {t : Trailer} {m m' : Message} :
    (t.addTo m).toJson = (t.addTo m').toJson ↔ m = m' := by
  constructor
  · intro h
    have hfields := congrArg Message.fields (Message.toJson_injective h)
    have hcancel : m.fields = m'.fields := List.append_cancel_right hfields
    cases m
    exact congrArg Message.mk hcancel
  · exact fun h => by rw [h]

/-- With the strict policy, exchanges have the same text if the same fields of them are kept. -/
lemma format_eq_iff {l : Logger} (hl : l.policy = Strict.policy) {e₁ e₂ : Exchange}
    (draw₁ draw₂ : Draw) (now : String) (interval : Option Interval) :
    l.format draw₁ e₁ now interval = l.format draw₂ e₂ now interval ↔
      e₁.message.fields.filterMap Strict.policy.fate =
        e₂.message.fields.filterMap Strict.policy.fate := by
  have hfields (e : Exchange) : (Strict.policy.copySessionFields e.request.session
      e.message).fields = e.message.fields := by
    rw [Policy.copySessionFields, Strict.sessionFields_policy]
    exact List.append_nil _
  simp only [format, finish, hl, Strict.apply_policy, hfields]
  generalize e₁.message.fields.filterMap Strict.policy.fate = fields₁
  generalize e₂.message.fields.filterMap Strict.policy.fate = fields₂
  have hkept (fields : List (String × String)) :
      ((if fields.isEmpty then none else some (⟨fields⟩ : Message)).map fun kept =>
        ((l.trailer now interval).addTo kept).toJson) =
      if fields = [] then none else some ((l.trailer now interval).addTo ⟨fields⟩).toJson := by
    cases fields <;> rfl
  rw [hkept, hkept]
  by_cases h₁ : fields₁ = [] <;> by_cases h₂ : fields₂ = [] <;>
    simp [h₁, h₂, toJson_addTo_inj, eq_comm]

/-- **What the text of an exchange depends on.** A logger without rules and without default rules
can be made, and of any two exchanges that agree on what is to be kept it makes the same text, or
none, if and only if the same is left of their URLs behind the first cut and of their parameters.
Their bodies and sessions do not matter at all, and neither does the draw.

**Proof sketch.** The logger has the strict policy, which keeps fields one by one and drops no
message. The fields are read back from the text (`format_eq_iff`), and those of alike exchanges
differ in what is left (`Alike.filterMap_fate_eq_iff`). -/
theorem format_eq_iff_residue (files : Files) {options : LoggerOptions}
    (hrules : options.rules = none) (hdefaults : options.defaultRules = none) :
    ∃ l, create files options = .ok l ∧
      ∀ (e₁ e₂ : Exchange) (draw₁ draw₂ : Draw) (now : String) (interval : Option Interval),
        e₁.Alike e₂ →
          (l.format draw₁ e₁ now interval = l.format draw₂ e₂ now interval ↔
            e₁.urlResidue = e₂.urlResidue ∧ e₁.paramResidue = e₂.paramResidue) := by
  obtain ⟨l, hcreate, hpolicy⟩ := create_strict files hrules hdefaults
  refine ⟨l, hcreate, fun e₁ e₂ draw₁ draw₂ now interval halike => ?_⟩
  rw [format_eq_iff hpolicy, halike.filterMap_fate_eq_iff]

/-- A query parameter whose name has a line feed reaches the text: without it, and the exchange
being the same otherwise, there is another text. -/
theorem format_ne_of_lineFeed :
    ∃ l, create (fun _ => none) {} = .ok l ∧
      (⟨{ method := some "GET", queryParams := [("a\nb", "secret")] }, {}, none, none⟩ :
        Exchange).Alike ⟨{ method := some "GET" }, {}, none, none⟩ ∧
      l.format ⟨0⟩ ⟨{ method := some "GET", queryParams := [("a\nb", "secret")] }, {}, none, none⟩
          "1" none ≠
        l.format ⟨0⟩ ⟨{ method := some "GET" }, {}, none, none⟩ "1" none := by
  obtain ⟨l, hcreate, hpolicy⟩ := @create_strict (fun _ => none) {} rfl rfl
  have halike : (⟨{ method := some "GET", queryParams := [("a\nb", "secret")] }, {}, none, none⟩ :
      Exchange).Alike ⟨{ method := some "GET" }, {}, none, none⟩ :=
    ⟨rfl, rfl, rfl, rfl, rfl, rfl, rfl⟩
  refine ⟨l, hcreate, halike, fun h => ?_⟩
  have hparam := (halike.filterMap_fate_eq_iff.mp ((format_eq_iff hpolicy _ _ _ _).mp h)).2
  simp [paramResidue, paramFields] at hparam

/-- Bodies, sessions, parameters without line feeds and queries without line feeds do not reach the
text. -/
theorem format_eq_of_residue_nil :
    ∃ l, create (fun _ => none) {} = .ok l ∧
      l.format ⟨0⟩ ⟨{ protocol := some "https", hostname := some "a.com", url := some "/b?c=d"
                      queryParams := [("c", "d")] }, {}, some "e", some "f"⟩ "1" none =
        l.format ⟨1⟩ ⟨{ protocol := some "https", hostname := some "a.com", url := some "/b;g"
                        session := [("h", .null)] }, {}, none, none⟩ "1" none := by
  obtain ⟨l, hcreate, hformat⟩ := @format_eq_iff_residue (fun _ => none) {} rfl rfl
  refine ⟨l, hcreate, (hformat _ _ _ _ _ _ ?_).mpr ⟨?_, ?_⟩⟩
  · exact ⟨rfl, rfl, rfl, by decide, rfl, rfl, rfl⟩
  · rw [urlResidue_eq_nil (by decide), urlResidue_eq_nil (by decide)]
  · rw [paramResidue_eq_nil (by decide), paramResidue_eq_nil (by decide)]

end Logger

end HttpAudit
