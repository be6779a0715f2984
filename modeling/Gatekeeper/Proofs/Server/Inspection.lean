import Gatekeeper.Admin
import Gatekeeper.Proofs.Config.Accepted
import Gatekeeper.Proofs.Dict
import Gatekeeper.Proofs.Http.Header
import Gatekeeper.Proofs.Json.RoundTrip
import Gatekeeper.Proofs.Table.Updates
import Gatekeeper.Proofs.Text.Pieces

namespace Gatekeeper

/-- A GET request for the routes whose first value for authorization is visible, and is the token or
the word for bearers with the token behind it. -/
def Request.AsksForRoutes (r : Request) (token : Text) : Prop :=
  r.method = "GET".toList ∧ r.uri.path = "/routes".toList ∧
    ∃ value, r.headers.first? "authorization".toList = some value ∧
      (value.text? = some token ∨ value.text? = some ("Bearer ".toList ++ token))

/-- The value of a field, if there is an object with such a field. -/
def Json.field? : Json → Text → Option Json
  | .object fields, name => fields.lookup name
  | _, _ => none

/-- The field is the text, or null where there is none. -/
def Json.HoldsText (item : Json) (name : Text) : Option Text → Prop
  | some t => item.field? name = some (.string t)
  | none => item.field? name = some .null

/-- The value describes the route, with its templates as they were set. -/
structure Json.Describes (item : Json) (route : Route) : Prop where
  host : item.field? "host".toList = some (.string route.host)
  names : item.HoldsText "names".toList (route.templates.get? "sablier_names".toList)
  group : item.HoldsText "group".toList (route.templates.get? "sablier_group".toList)
  redirect : item.HoldsText "internal_redirect".toList
    (route.templates.get? "sablier_internal_redirect".toList)

/-- The routes are those of the table, each of them once, in ascending order of their hosts. -/
structure Table.IsListedBy (t : Table) (routes : List Route) : Prop where
  ascending : routes.Pairwise fun a b => a.host < b.host
  mem_iff : ∀ route, route ∈ routes ↔ t.routes.get? route.host = some route

/-- The response is a success, and its object lists the routes of the table. -/
def Response.Lists (response : Response) (t : Table) : Prop :=
  response.status = 200 ∧ ∃ whole items routes,
    Json.ofBytes? response.body.data.toList = some whole ∧
      whole.field? "routes".toList = some (.array items) ∧
      List.Forall₂ Json.Describes items routes ∧ t.IsListedBy routes

namespace Table

theorem isListedBy_listing (t : Table) : t.IsListedBy t.listing where
  ascending := List.pairwise_map.mp t.hosts_ascend
  mem_iff route := by
    rw [listing_eq_values, Dict.values, List.mem_map, Dict.get?_eq_some_iff]
    constructor
    · rintro ⟨⟨host, route⟩, he, rfl⟩
      rwa [t.host_eq (Dict.get?_eq_some_iff.mpr he)]
    · exact fun h => ⟨_, h, rfl⟩

end Table

namespace Admin

/-- The word for bearers is taken off before the token is compared, so it may be left out unless the
token begins with it. -/
theorem isAuthorized_iff {r : Request} {token : Text} :
    isAuthorized r token = true ↔
      ∃ given, r.headers.firstText? "authorization".toList = some given ∧
        (given = "Bearer ".toList ++ token ∨
          given = token ∧ Text.dropLeading? "Bearer ".toList given = none) := by
  rw [isAuthorized]
  cases r.headers.firstText? "authorization".toList with
  | none => simp only [Bool.false_eq_true, reduceCtorEq, false_and, exists_false]
  | some given =>
      simp only [decide_eq_true_eq, Option.some.injEq, exists_eq_left',
        Text.getD_dropLeading?_eq_iff]

theorem holdsText_of_field? {item : Json} {name : Text} {t : Option Text}
    (h : item.field? name = some (.ofText? t)) : item.HoldsText name t := by
  cases t with
  | none => exact h
  | some t => exact h

theorem describes_routeJson (route : Route) : (routeJson route).Describes route where
  host := rfl
  names := holdsText_of_field? rfl
  group := holdsText_of_field? rfl
  redirect := holdsText_of_field? rfl

end Admin

namespace Server

variable {s s' : Server} {r : Request}

theorem inspect_routes (hmethod : r.method = "GET".toList) (hpath : r.uri.path = "/routes".toList)
    (hauthorized : Admin.isAuthorized r s.adminToken = true) :
    s.inspect r = Admin.jsonResponse (Admin.routesJson s.table s.counters) := by
  rw [inspect, if_pos hmethod, hpath, if_neg (by decide), if_neg (by decide), if_pos rfl,
    if_pos hauthorized]

theorem asksForRoutes_of_isAuthorized (hmethod : r.method = "GET".toList)
    (hpath : r.uri.path = "/routes".toList) {token : Text}
    (hauthorized : Admin.isAuthorized r token = true) : r.AsksForRoutes token := by
  obtain ⟨given, hgiven, htoken⟩ := Admin.isAuthorized_iff.mp hauthorized
  obtain ⟨value, hvalue, htext⟩ := Option.bind_eq_some_iff.mp hgiven
  refine ⟨hmethod, hpath, value, hvalue, ?_⟩
  rw [htext]
  rcases htoken with rfl | ⟨rfl, -⟩
  · exact Or.inr rfl
  · exact Or.inl rfl

theorem inspect_eq_of_not_asksForRoutes (htoken : s'.adminToken = s.adminToken)
    (h : ¬r.AsksForRoutes s.adminToken) : s.inspect r = s'.inspect r := by
  rw [inspect, inspect, htoken]
  split
  · rename_i hmethod
    split
    · rfl
    · split
      · rfl
      · split
        · rename_i hpath
          have hrefused := mt (asksForRoutes_of_isAuthorized hmethod hpath) h
          rw [if_neg hrefused, if_neg hrefused]
        · rfl
  · rfl

theorem lists_inspect (hmethod : r.method = "GET".toList) (hpath : r.uri.path = "/routes".toList)
    (hauthorized : Admin.isAuthorized r s.adminToken = true) : (s.inspect r).Lists s.table := by
  rw [inspect_routes hmethod hpath hauthorized]
  refine ⟨rfl, _, s.table.listing.map Admin.routeJson, s.table.listing,
    Json.ofBytes?_bodyOfText _, rfl, ?_, s.table.isListedBy_listing⟩
  rw [List.forall₂_map_left_iff, List.forall₂_same]
  exact fun route _ => Admin.describes_routeJson route

end Server

/-- For every token: to a request that is no GET request for the routes with this token, two servers
answer alike, whatever their routes and counters are. If the token is readable and stands behind the
word for bearers, as the first value for authorization, a GET request for the routes gets them. -/
theorem routes_are_disclosed_with_the_token (token : Text) :
    (∀ (s s' : Server) (r : Request), s.adminToken = token → s'.adminToken = token →
      ¬r.AsksForRoutes token → s.inspect r = s'.inspect r) ∧
    (token.all HeaderValue.isReadableChar = true → ∀ (s : Server) (r : Request),
      s.adminToken = token → r.method = "GET".toList → r.uri.path = "/routes".toList →
      r.headers.first? "authorization".toList = some (.ofText ("Bearer ".toList ++ token)) →
      (s.inspect r).Lists s.table) := by
  constructor
  · rintro s s' r rfl htoken hasks
    exact Server.inspect_eq_of_not_asksForRoutes htoken hasks
  · rintro hreadable s r rfl hmethod hpath hvalue
    have htext : r.headers.firstText? "authorization".toList =
        some ("Bearer ".toList ++ s.adminToken) := by
      have hall : ("Bearer ".toList ++ s.adminToken).all HeaderValue.isReadableChar = true := by
        rw [List.all_append, hreadable]
        decide
      rw [Headers.firstText?, hvalue, Option.bind_some, HeaderValue.text?_ofText, if_pos hall]
    exact Server.lists_inspect hmethod hpath (Admin.isAuthorized_iff.mpr ⟨_, htext, .inl rfl⟩)

def Request.forRoutes (values : List Text) : Request where
  method := "GET".toList
  uri := ⟨none, none, "/routes".toList, none⟩
  headers := values.map fun value => ("authorization".toList, .ofText value)
  body := ByteArray.empty

/-- A token that begins with the word for bearers is needed twice over, and in the first value. -/
theorem token_behind_bearer_word :
    let s := Server.start (.toBackend "app".toList "10.0.0.1:80".toList) "Bearer t".toList
    let s' : Server := { s with table := .empty, counters := ⟨1, 1⟩ }
    let refused := Request.forRoutes ["t".toList, "Bearer Bearer t".toList]
    let granted := Request.forRoutes ["Bearer Bearer t".toList, "t".toList]
    s.inspect refused = s'.inspect refused ∧ (s.inspect granted).Lists s.table ∧
      (s'.inspect granted).Lists s'.table ∧ s.inspect granted ≠ s'.inspect granted := by
  intro s s' refused granted
  obtain ⟨halike, hlists⟩ := routes_are_disclosed_with_the_token "Bearer t".toList
  have hrefused : ¬refused.AsksForRoutes "Bearer t".toList := by
    rintro ⟨-, -, value, hvalue, htext⟩
    have hfirst : refused.headers.first? "authorization".toList = some (.ofText "t".toList) := by
      decide
    cases hfirst.symm.trans hvalue
    revert htext
    decide
  have hlists' := hlists (by decide)
  exact ⟨halike s s' refused rfl rfl hrefused, hlists' s granted rfl rfl rfl (by decide),
    hlists' s' granted rfl rfl rfl (by decide), by decide +kernel⟩

end Gatekeeper
