import TrustTunnel.Endpoint.Settings

/-!
# Routing of requests by path

A request on a main host is answered by the ping handler, by the speedtest handler or by
the reverse proxy if its path begins with the path configured for it, and goes to the
tunnel otherwise. The checks are made in a fixed order.
-/

namespace TrustTunnel.Endpoint

open ReverseProxy List

/-- `net_utils::Channel`. -/
inductive Channel where
  | tunnel
  | ping
  | speedtest
  | reverseProxy
  deriving DecidableEq

/-- `http::Uri::path`: what stands in front of the query, `/` if that is empty. A URI that is
only an authority has no path. -/
def Uri.path (self : Uri) : Bytes :=
  match self.pathAndQuery with
  | none => []
  | some part =>
    if (part.val.text.takeWhile (· ≠ 63)).isEmpty then [47]
    else part.val.text.takeWhile (· ≠ 63)

structure HttpDemux where
  coreSettings : Settings

variable {self : HttpDemux} {req : RequestHeaders}

namespace HttpDemux

/-- The path of the request begins with the configured text, if one is configured. -/
def checkPath (path : Option String) (req : RequestHeaders) : Bool :=
  path.any fun path => (Bytes.ofString path).isPrefixOf req.uri.path

def checkPing (self : HttpDemux) (req : RequestHeaders) : Bool :=
  if self.coreSettings.pingEnable = false then false
  else checkPath self.coreSettings.pingPath req

def checkSpeedtest (self : HttpDemux) (req : RequestHeaders) : Bool :=
  if self.coreSettings.speedtestEnable = false then false
  else checkPath self.coreSettings.speedtestPath req

def checkReverseProxyPath (self : HttpDemux) (req : RequestHeaders) : Bool :=
  if self.coreSettings.reverseProxy.isNone then false
  else checkPath (self.coreSettings.reverseProxy.map (·.pathMask)) req

def select (self : HttpDemux) (_protocol : Protocol) (req : RequestHeaders) : Channel :=
  if self.checkPing req then .ping
  else if self.checkSpeedtest req then .speedtest
  else if self.checkReverseProxyPath req then .reverseProxy
  else .tunnel

/-! ## Routes in any order -/

structure Route where
  channel : Channel
  check : RequestHeaders → Bool

/-- The checks, in the order of `select`. -/
def routes (self : HttpDemux) : List Route :=
  [⟨.ping, self.checkPing⟩, ⟨.speedtest, self.checkSpeedtest⟩,
    ⟨.reverseProxy, self.checkReverseProxyPath⟩]

/-- The channel of the first check that is true. -/
def selectBy (order : List Route) (req : RequestHeaders) : Channel :=
  ((order.find? (·.check req)).map Route.channel).getD .tunnel

/-- At most one check is true, and so the channel does not depend on their order. -/
structure Unambiguous (demux : HttpDemux) (req : RequestHeaders) : Prop where
  single : (demux.routes.filter (·.check req)).length ≤ 1
  anyOrder (protocol : Protocol) (order : List Route) (perm : order.Perm demux.routes) :
    selectBy order req = demux.select protocol req

lemma select_eq_selectBy (self : HttpDemux) (protocol : Protocol) (req : RequestHeaders) :
    self.select protocol req = selectBy self.routes req := by
  rw [select, selectBy, routes]
  cases ping : self.checkPing req with
  | true => simp [ping]
  | false =>
    cases speedtest : self.checkSpeedtest req with
    | true => simp [ping, speedtest]
    | false =>
      cases proxy : self.checkReverseProxyPath req with
      | true | false => simp [ping, speedtest, proxy]

/-- A search that has at most one answer finds it in any order. -/
lemma find?_perm {α : Type} {accepts : α → Bool} {order list : List α}
    (perm : order.Perm list) (single : (list.filter accepts).length ≤ 1) :
    order.find? accepts = list.find? accepts := by
  rw [← head?_filter, ← head?_filter]
  have same := perm.filter accepts
  cases found : list.filter accepts with
  | nil =>
    rw [found] at same
    rw [same.eq_nil]
  | cons _ others =>
    rw [found] at same single
    have alone : others = [] := length_eq_zero_iff.mp (by
      rw [length_cons] at single
      omega)
    rw [alone] at same ⊢
    rw [perm_singleton.mp same]

lemma unambiguous_of_single (single : (self.routes.filter (·.check req)).length ≤ 1) :
    self.Unambiguous req where
  single := single
  anyOrder protocol order perm := by
    rw [select_eq_selectBy, selectBy, selectBy, find?_perm perm single]

/-- Of three checks at most one is true if no two of them are. -/
lemma single_iff (self : HttpDemux) (req : RequestHeaders) :
    (self.routes.filter (·.check req)).length ≤ 1 ↔
      ¬(self.checkPing req = true ∧ self.checkSpeedtest req = true) ∧
        ¬(self.checkPing req = true ∧ self.checkReverseProxyPath req = true) ∧
        ¬(self.checkSpeedtest req = true ∧ self.checkReverseProxyPath req = true) := by
  rw [routes]
  cases ping : self.checkPing req with
  | true =>
    cases speedtest : self.checkSpeedtest req with
    | true | false => simp [ping, speedtest]
  | false =>
    cases speedtest : self.checkSpeedtest req with
    | true => simp [ping, speedtest]
    | false =>
      cases proxy : self.checkReverseProxyPath req with
      | true | false => simp [ping, speedtest, proxy]

/-! ## Overlapping paths -/

/-- The path of a URI can begin with the text: it is visible and has no query in it. -/
def PathStart (text : Bytes) : Prop := text.all (32 < ·) = true ∧ 63 ∉ text

instance (text : Bytes) : Decidable (PathStart text) := inferInstanceAs (Decidable (_ ∧ _))

/-- One text is the beginning of the other, and a path can begin with the longer one. -/
def Overlap (left right : Bytes) : Prop :=
  left <+: right ∧ PathStart right ∨ right <+: left ∧ PathStart left

instance (left right : Bytes) : Decidable (Overlap left right) :=
  inferInstanceAs (Decidable (_ ∨ _))

lemma pathStart_of_prefix {front text : Bytes} (shorter : front <+: text)
    (start : PathStart text) : PathStart front := by
  obtain ⟨rest, rfl⟩ := shorter
  rw [PathStart, all_append, Bool.and_eq_true] at start
  exact ⟨start.1.1, fun query => start.2 (mem_append_left _ query)⟩

lemma pathStart_path (uri : Uri) : PathStart uri.path := by
  rw [Uri.path]
  cases uri.pathAndQuery with
  | none => decide
  | some part =>
    simp only
    split
    · decide
    · constructor
      · rw [all_eq_true]
        intro byte mem
        exact all_eq_true.mp part.val.visible byte (( takeWhile_prefix _).subset mem)
      · intro query
        exact absurd (mem_takeWhile_imp query) (by decide)

/-- A request whose path is the given text. -/
def requestOf (text : Bytes) (start : PathStart text) (nonempty : text ≠ []) : RequestHeaders where
  method := ⟨.ofString "GET", by decide⟩
  uri := ⟨none, some ⟨⟨text, start.1⟩, nonempty⟩⟩
  version := .http11
  headers := []

lemma path_requestOf {text : Bytes} (start : PathStart text) (nonempty : text ≠ []) :
    (requestOf text start nonempty).uri.path = text := by
  have whole : text.takeWhile (· ≠ 63) = text := by
    rw [takeWhile_eq_self_iff]
    intro byte mem
    rw [decide_eq_true_iff]
    rintro rfl
    exact start.2 mem
  rw [Uri.path, requestOf]
  simp only [whole]
  exact if_neg (by simpa using nonempty)

/-- The path of some request begins with both of two texts exactly when they overlap. -/
lemma exists_request_iff {left right : Bytes} (nonempty : right ≠ []) :
    (∃ req : RequestHeaders, left <+: req.uri.path ∧ right <+: req.uri.path) ↔
      Overlap left right := by
  constructor
  · rintro ⟨req, first, second⟩
    have start := pathStart_path req.uri
    rcases prefix_or_prefix_of_prefix first second with shorter | longer
    · exact .inl ⟨shorter, pathStart_of_prefix second start⟩
    · exact .inr ⟨longer, pathStart_of_prefix first start⟩
  · rintro (⟨shorter, start⟩ | ⟨longer, start⟩)
    · refine ⟨requestOf right start nonempty, ?_⟩
      rw [path_requestOf]
      exact ⟨shorter, prefix_refl _⟩
    · have leftNonempty : left ≠ [] := by
        rintro rfl
        exact nonempty (prefix_nil.mp longer)
      refine ⟨requestOf left start leftNonempty, ?_⟩
      rw [path_requestOf]
      exact ⟨prefix_refl _, longer⟩

end HttpDemux

/-- The ping or the speedtest path is in use and overlaps with the path mask of the reverse
proxy. -/
def Settings.MaskOverlaps (self : Settings) : Prop :=
  ∃ proxy, self.reverseProxy = some proxy ∧
    ∃ path, (self.pingEnable = true ∧ self.pingPath = some path ∨
        self.speedtestEnable = true ∧ self.speedtestPath = some path) ∧
      HttpDemux.Overlap (.ofString path) (.ofString proxy.pathMask)

namespace HttpDemux

variable {path : Option String} {settings : Settings}

lemma checkPath_iff :
    checkPath path req = true ↔
      ∃ text, path = some text ∧ Bytes.ofString text <+: req.uri.path := by
  rw [checkPath, Option.any_eq_true]
  simp only [ isPrefixOf_iff_prefix]

lemma checkEnabled_iff {enabled : Bool} :
    (if enabled = false then false else checkPath path req) = true ↔
      enabled = true ∧ ∃ text, path = some text ∧ Bytes.ofString text <+: req.uri.path := by
  rw [← checkPath_iff]
  cases enabled with
  | true | false => simp

lemma checkPing_iff :
    self.checkPing req = true ↔ self.coreSettings.pingEnable = true ∧
      ∃ text, self.coreSettings.pingPath = some text ∧
        Bytes.ofString text <+: req.uri.path := checkEnabled_iff

lemma checkSpeedtest_iff :
    self.checkSpeedtest req = true ↔ self.coreSettings.speedtestEnable = true ∧
      ∃ text, self.coreSettings.speedtestPath = some text ∧
        Bytes.ofString text <+: req.uri.path := checkEnabled_iff

lemma checkReverseProxyPath_iff :
    self.checkReverseProxyPath req = true ↔
      ∃ proxy, self.coreSettings.reverseProxy = some proxy ∧
        Bytes.ofString proxy.pathMask <+: req.uri.path := by
  rw [checkReverseProxyPath]
  cases self.coreSettings.reverseProxy with
  | none => simp
  | some => simp [checkPath_iff]

/-- A validated ping path and speedtest path never match the same request. -/
lemma not_ping_and_speedtest (accepted : settings.validate = .ok ()) (req : RequestHeaders) :
    ¬((HttpDemux.mk settings).checkPing req = true ∧
      (HttpDemux.mk settings).checkSpeedtest req = true) := by
  rw [checkPing_iff, checkSpeedtest_iff]
  rintro ⟨⟨-, ping, pingPath, pingFront⟩, -, speedtest, speedtestPath, speedtestFront⟩
  obtain ⟨notSpeedtest, notPing⟩ :=
    (Settings.paths_of_validate accepted).2 ping _ pingPath speedtestPath
  rcases prefix_or_prefix_of_prefix pingFront speedtestFront with shorter | longer
  · exact notPing (startsWith_iff.mpr shorter)
  · exact notSpeedtest (startsWith_iff.mpr longer)

lemma mask_ne_nil (accepted : settings.validate = .ok ()) {proxy : ReverseProxySettings}
    (present : settings.reverseProxy = some proxy) : Bytes.ofString proxy.pathMask ≠ [] := by
  have slash := startsWith_iff.mp ((Settings.paths_of_validate accepted).1 proxy present)
  intro empty
  rw [empty] at slash
  exact absurd (prefix_nil.mp slash) (by decide +kernel)

/-- Settings with a ping and a speedtest path and the given path mask. -/
def maskedSettings (pathMask : String) : Settings where
  listenAddress := ⟨.v4 (.new 127 0 0 1), 443⟩
  listenProtocols := ⟨true, true, true⟩
  clients := []
  reverseProxy := some ⟨⟨.v4 (.new 127 0 0 1), 8080⟩, pathMask⟩
  speedtestEnable := true
  pingEnable := true
  pingPath := some "/ping"
  speedtestPath := some "/speedtest"
  authFailureStatusCode := 407
  nonConnectAuthFailureStatusCode := none

end HttpDemux

end TrustTunnel.Endpoint
