import ServiceHost.Host.Context
import ServiceHost.Proofs.Binding.Lookup
import ServiceHost.Proofs.Call.Registry

/-!
# Routes and methods of one host

A service is bound rule by rule before its methods are registered, and the first malformed template
ends both.  So of a service with a malformed template the routes in front of it stay, and its methods
never come.  Which routes of a host lead nowhere can be told from its services: those of a service
with a malformed template to methods that nobody else has (`HostContext.leadsNowhere_iff`).  A
registration that fails leaves the registry as it was, and the table only if the malformed template
is the first (`HostContext.registration_leaves_behind`); so there are routes that lead nowhere
(`HostContext.half_bound_service`).
-/

namespace ServiceHost

/-! ## The routes of one service -/

/-- The routes of rules up to the first malformed template, and what is wrong with that. -/
def leadingRoutes : List (String × Rule) → List Route × Option TemplateError
  | [] => ([], none)
  | (target, rule) :: rest =>
    match rule.route? target with
    | .ok route => (route :: (leadingRoutes rest).1, (leadingRoutes rest).2)
    | .error fault => ([], some fault)

variable {rules : List (String × Rule)} {fault : TemplateError} {target : String} {rule : Rule}

@[simp] theorem leadingRoutes_nil : leadingRoutes [] = ([], none) := rfl

/-- A well-formed template leads on to the other rules. -/
theorem leadingRoutes_cons_ok {route : Route} (h : rule.route? target = .ok route) :
    leadingRoutes ((target, rule) :: rules) =
      (route :: (leadingRoutes rules).1, (leadingRoutes rules).2) := by
  rw [leadingRoutes, h]

/-- A malformed template ends the routes. -/
theorem leadingRoutes_cons_error (h : rule.route? target = .error fault) :
    leadingRoutes ((target, rule) :: rules) = ([], some fault) := by
  rw [leadingRoutes, h]

theorem leadingRoutes_append_of_none (h : (leadingRoutes rules).2 = none)
    (more : List (String × Rule)) :
    leadingRoutes (rules ++ more) =
      ((leadingRoutes rules).1 ++ (leadingRoutes more).1, (leadingRoutes more).2) := by
  induction rules with
  | nil => rfl
  | cons binding rest ih =>
      obtain ⟨target, rule⟩ := binding
      cases hroute : rule.route? target with
      | ok route =>
          rw [leadingRoutes_cons_ok hroute] at h
          rw [List.cons_append, leadingRoutes_cons_ok hroute, leadingRoutes_cons_ok hroute, ih h]
          rfl
      | error fault =>
          rw [leadingRoutes_cons_error hroute] at h
          cases h

theorem leadingRoutes_append_of_some (h : (leadingRoutes rules).2 = some fault)
    (more : List (String × Rule)) : leadingRoutes (rules ++ more) = leadingRoutes rules := by
  induction rules with
  | nil => cases h
  | cons binding rest ih =>
      obtain ⟨target, rule⟩ := binding
      cases hroute : rule.route? target with
      | ok route =>
          rw [leadingRoutes_cons_ok hroute] at h
          rw [List.cons_append, leadingRoutes_cons_ok hroute, leadingRoutes_cons_ok hroute, ih h]
      | error fault =>
          rw [List.cons_append, leadingRoutes_cons_error hroute, leadingRoutes_cons_error hroute]

/-- A route leads to the method that its rule binds. -/
theorem target_of_mem_leadingRoutes {route : Route} (h : route ∈ (leadingRoutes rules).1) :
    ∃ rule, (route.target, rule) ∈ rules := by
  induction rules with
  | nil => simp at h
  | cons binding rest ih =>
      obtain ⟨target, rule⟩ := binding
      cases hroute : rule.route? target with
      | error fault => simp [leadingRoutes_cons_error hroute] at h
      | ok first =>
          rw [leadingRoutes_cons_ok hroute, List.mem_cons] at h
          rcases h with rfl | h
          · have htarget : route.target = target := by
              unfold Rule.route? at hroute
              cases hparse : Template.parse rule.template with
              | error fault => simp [hparse, Except.map] at hroute
              | ok template =>
                  simp only [hparse, Except.map, Except.ok.injEq] at hroute
                  rw [← hroute]
            exact ⟨rule, by simp [htarget]⟩
          · obtain ⟨rule', hmem⟩ := ih h
            exact ⟨rule', List.mem_cons_of_mem _ hmem⟩

namespace Service

variable (service : Service)

/-- The rules of a service in the order of their binding, each with the path of its method. -/
def bindings : List (String × Rule) :=
  service.methods.flatMap fun method => method.rules.map (method.path, ·)

/-- The routes that binding a service adds. -/
def routes : List Route := (leadingRoutes service.bindings).1

/-- What is wrong with the first malformed template of a service. -/
def fault? : Option TemplateError := (leadingRoutes service.bindings).2

/-- A route of a service leads to one of its methods. -/
theorem hasPath_target {route : Route} (h : route ∈ service.routes) :
    service.HasPath route.target := by
  obtain ⟨rule, hmem⟩ := target_of_mem_leadingRoutes h
  obtain ⟨method, hmethod, hrule⟩ := List.mem_flatMap.mp hmem
  obtain ⟨_, _, heq⟩ := List.mem_map.mp hrule
  exact ⟨method, hmethod, congrArg Prod.fst heq⟩

/-- A service adds no route although it has a fault exactly if its first template is the malformed
one. -/
theorem routes_eq_nil_iff {fault : TemplateError} (h : service.fault? = some fault) :
    service.routes = [] ↔
      ∃ target rule, service.bindings.head? = some (target, rule) ∧
        rule.route? target = .error fault := by
  unfold fault? at h
  unfold routes
  cases hbindings : service.bindings with
  | nil => simp [hbindings] at h
  | cons binding rest =>
      obtain ⟨target, rule⟩ := binding
      rw [hbindings] at h
      cases hroute : rule.route? target with
      | ok route => simp [leadingRoutes_cons_ok hroute, hroute]
      | error other =>
          rw [leadingRoutes_cons_error hroute] at h ⊢
          obtain rfl : other = fault := Option.some.inj h
          exact iff_of_true rfl ⟨target, rule, rfl, hroute⟩

end Service

/-! ## Binding -/

namespace Gateway

theorem addRules_eq (path : String) (table : RoutingTable) (rules : List Rule) :
    addRules path table rules =
      ({ routes := table.routes ++ (leadingRoutes (rules.map (path, ·))).1 },
       (leadingRoutes (rules.map (path, ·))).2) := by
  induction rules generalizing table with
  | nil => simp [addRules]
  | cons rule rest ih =>
      rw [addRules, RoutingTable.add_eq, List.map_cons]
      cases hroute : rule.route? path with
      | error fault => simp [leadingRoutes_cons_error hroute, Except.map]
      | ok route => simp [leadingRoutes_cons_ok hroute, Except.map, ih]

theorem addMethods_eq (table : RoutingTable) (methods : List Method) :
    addMethods table methods =
      ({ routes := table.routes ++ (Service.mk "" methods).routes },
       (Service.mk "" methods).fault?) := by
  induction methods generalizing table with
  | nil => simp [addMethods, Service.routes, Service.fault?, Service.bindings]
  | cons method rest ih =>
      have hbindings : (Service.mk "" (method :: rest)).bindings =
          method.rules.map (method.path, ·) ++ (Service.mk "" rest).bindings := List.flatMap_cons
      rw [addMethods, addRules_eq, Service.routes, Service.fault?, hbindings]
      cases hfault : (leadingRoutes (method.rules.map (method.path, ·))).2 with
      | none => simp [leadingRoutes_append_of_none hfault, ih, Service.routes, Service.fault?]
      | some fault => simp [leadingRoutes_append_of_some hfault, hfault]

/-- Binding a service adds its routes and fails with its fault. -/
theorem add_eq (gateway : Gateway) (service : Service) :
    gateway.add service =
      ({ gateway with table := { routes := gateway.table.routes ++ service.routes } },
       service.fault?) := by
  rw [add, addMethods_eq]
  rfl

end Gateway

/-! ## Registering -/

namespace HostContext

/-- The routes that a host has bound. -/
def routes (context : HostContext) : List Route :=
  context.gateway.elim [] (·.table.routes)

/-- Register services one after another, those behind a failure too. -/
def registerAll (context : HostContext) (services : List Service) : HostContext :=
  services.foldl (fun context service => (context.addService service).1) context

/-- **What a registration does.**  The routes in front of the first fault are there in any case, the
methods only if there is no fault. -/
theorem addService_spec (context : HostContext) (service : Service)
    (hgateway : context.gateway.isSome) :
    (context.addService service).2 = service.fault? ∧
      (context.addService service).1.gateway.isSome ∧
      (context.addService service).1.routes = context.routes ++ service.routes ∧
      (context.addService service).1.registry =
        if service.fault?.isSome then context.registry else (context.registry.add service).1 := by
  obtain ⟨gateway, hsome⟩ := Option.isSome_iff_exists.mp hgateway
  cases hfault : service.fault? with
  | none => simp [addService, hsome, Gateway.add_eq, hfault, addMethods, report, routes]
  | some fault => simp [addService, hsome, Gateway.add_eq, hfault, routes]

/-- What a run of registrations leaves behind: the routes of all services, and the methods of those
without a fault. -/
theorem registerAll_spec (context : HostContext) (hgateway : context.gateway.isSome)
    (services : List Service) :
    (context.registerAll services).gateway.isSome ∧
      (context.registerAll services).routes = context.routes ++ services.flatMap Service.routes ∧
      ∀ path, (context.registerAll services).registry.has path = true ↔
        context.registry.has path = true ∨
          ∃ service ∈ services, service.fault? = none ∧ service.HasPath path := by
  induction services generalizing context with
  | nil => simp [registerAll, hgateway]
  | cons service rest ih =>
      rw [registerAll, List.foldl_cons, ← registerAll]
      obtain ⟨-, hnext, hroutes, hregistry⟩ := context.addService_spec service hgateway
      obtain ⟨hrest, hrestRoutes, hrestHas⟩ := ih _ hnext
      refine ⟨hrest, by simp [hrestRoutes, hroutes], fun path => ?_⟩
      rw [hrestHas, hregistry]
      cases hfault : service.fault? with
      | none => simp [hfault, Registry.has_add, or_assoc]
      | some fault => simp [hfault]

/-- The context that modules start with has no routes, and one method. -/
theorem ofSettings_spec (settings : Settings) :
    (ofSettings settings).gateway.isSome ∧ (ofSettings settings).routes = [] ∧
      ∀ path, (ofSettings settings).registry.has path = true ↔ path = Health.checkPath := by
  refine ⟨rfl, rfl, fun path => ?_⟩
  have hadd : (ofSettings settings).registry = (Registry.add {} Health.service).1 := rfl
  rw [hadd, Registry.has_add]
  simp [Registry.has, Registry.find?, Service.HasPath, Health.service, Service.withMethod,
    Health.checkPath, eq_comm]

/-- A route leads nowhere if it is bound and no method is registered under its target. -/
def LeadsNowhere (context : HostContext) (route : Route) : Prop :=
  route ∈ context.routes ∧ context.registry.has route.target = false

/-- The context of a host after services were registered. -/
def withServices (settings : Settings) (services : List Service) : HostContext :=
  (ofSettings settings).registerAll services

/-- A route of a host leads nowhere exactly if it stands in front of a malformed template of a
service, and neither the host nor a service without one has a method of its target. -/
theorem leadsNowhere_iff (settings : Settings) (services : List Service) (route : Route) :
    (withServices settings services).LeadsNowhere route ↔
      (∃ service ∈ services, service.fault?.isSome ∧ route ∈ service.routes) ∧
        route.target ≠ Health.checkPath ∧
        ∀ service ∈ services, service.fault? = none → ¬ service.HasPath route.target := by
  obtain ⟨hgateway, hnoRoutes, hhealth⟩ := ofSettings_spec settings
  obtain ⟨-, hroutes, hhas⟩ := registerAll_spec _ hgateway services
  rw [LeadsNowhere, withServices, hroutes, hnoRoutes, List.nil_append, List.mem_flatMap,
    ← Bool.not_eq_true, hhas, hhealth]
  simp only [not_or, not_exists, not_and]
  constructor
  · rintro ⟨⟨service, hmem, hroute⟩, hother, hnone⟩
    refine ⟨⟨service, hmem, ?_, hroute⟩, hother, hnone⟩
    -- a service without a fault would have registered the method
    cases hfault : service.fault? with
    | none => exact absurd (service.hasPath_target hroute) (hnone service hmem hfault)
    | some fault => rfl
  · rintro ⟨⟨service, hmem, -, hroute⟩, hnone⟩
    exact ⟨⟨service, hmem, hroute⟩, hnone⟩

/-- **Which routes lead nowhere, and what a failed registration leaves behind.**  Whatever services
were registered, with or without failures, a route leads nowhere exactly if it stands in front of a
malformed template of a service, and neither the host nor a service without one has a method of its
target.  A registration that fails leaves the registry as it was and adds to the table the routes in
front of the malformed template; there are none exactly if that is the first. -/
theorem registration_leaves_behind (settings : Settings) (services : List Service) :
    (∀ route, (withServices settings services).LeadsNowhere route ↔
      (∃ service ∈ services, service.fault?.isSome ∧ route ∈ service.routes) ∧
        route.target ≠ Health.checkPath ∧
        ∀ service ∈ services, service.fault? = none → ¬ service.HasPath route.target) ∧
    ∀ service fault, ((withServices settings services).addService service).2 = some fault →
      ((withServices settings services).addService service).1.registry =
        (withServices settings services).registry ∧
      ((withServices settings services).addService service).1.routes =
        (withServices settings services).routes ++ service.routes ∧
      (service.routes = [] ↔ ∃ target rule, service.bindings.head? = some (target, rule) ∧
        rule.route? target = .error fault) := by
  refine ⟨leadsNowhere_iff settings services, fun service fault hfails => ?_⟩
  have hsome : (withServices settings services).gateway.isSome :=
    (registerAll_spec _ (ofSettings_spec settings).1 services).1
  obtain ⟨hresult, -, htable, hregistry⟩ := addService_spec _ service hsome
  have hfault : service.fault? = some fault := hresult.symm.trans hfails
  rw [hfault] at hregistry
  exact ⟨hregistry, htable, service.routes_eq_nil_iff hfault⟩

/-- A service whose method has two rules, of which the second is malformed. -/
def halfBound : Service where
  name := "x"
  methods :=
    [{ name := "A", path := "/x/A", handler := fun _ => .reply .null []
       rules := [{ method := "GET", template := "/ok" }, { method := "GET", template := "bad" }] }]

/-- The route of the first of these rules. -/
def halfBoundRoute : Route :=
  { method := "GET", template := { text := "/ok", segments := [.literal "ok"] }
    target := "/x/A", body := .none }

theorem leadingRoutes_halfBound :
    leadingRoutes halfBound.bindings = ([halfBoundRoute], some (.noLeadingSlash "bad")) := by
  decide

/-- What the registration of that service leaves behind. -/
theorem registration_leaves_behind_half_bound :
    (∃ fault, ((withServices {} []).addService halfBound).2 = some fault) ∧
      ((withServices {} []).addService halfBound).1.registry = (withServices {} []).registry ∧
      ((withServices {} []).addService halfBound).1.routes = [halfBoundRoute] ∧
      (withServices {} [halfBound]).LeadsNowhere halfBoundRoute := by
  have hroutes : halfBound.routes = [halfBoundRoute] := congrArg Prod.fst leadingRoutes_halfBound
  have hfault : halfBound.fault? = some (.noLeadingSlash "bad") :=
    congrArg Prod.snd leadingRoutes_halfBound
  have hfails := ((withServices {} []).addService_spec halfBound rfl).1.trans hfault
  obtain ⟨hregistry, htable, -⟩ := (registration_leaves_behind {} []).2 halfBound _ hfails
  refine ⟨⟨_, hfails⟩, hregistry, by rw [htable, hroutes]; rfl, ?_⟩
  refine ((registration_leaves_behind {} [halfBound]).1 halfBoundRoute).mpr
    ⟨⟨halfBound, List.mem_singleton_self _, ?_, ?_⟩, by decide, fun service hmem hnone => ?_⟩
  · rw [hfault]; rfl
  · rw [hroutes]; exact List.mem_singleton_self _
  · rw [List.mem_singleton.mp hmem, hfault] at hnone
    exact absurd hnone (by simp)

/-- **Half a service can be bound.**  It is not so that every route of a host leads to a method that
is registered, nor that a registration that fails leaves the table as it was. -/
theorem half_bound_service :
    (¬ ∀ settings services, ∀ route ∈ (withServices settings services).routes,
      (withServices settings services).registry.has route.target = true) ∧
    ¬ ∀ settings services service fault,
      ((withServices settings services).addService service).2 = some fault →
        ((withServices settings services).addService service).1.routes =
          (withServices settings services).routes := by
  have hfault : halfBound.fault? = some (.noLeadingSlash "bad") :=
    congrArg Prod.snd leadingRoutes_halfBound
  obtain ⟨hresult, -, htable, hregistry⟩ := (withServices {} []).addService_spec halfBound rfl
  have hfails := hresult.trans hfault
  rw [hfault] at hregistry
  have hroutes : ((withServices {} []).addService halfBound).1.routes = [halfBoundRoute] := by
    rw [htable, Service.routes, leadingRoutes_halfBound]
    rfl
  constructor
  · intro h
    have hhas := h {} [halfBound] halfBoundRoute
      (by exact hroutes ▸ List.mem_singleton_self halfBoundRoute)
    have hnone : (withServices {} []).registry.has "/x/A" = false := by decide
    rw [show (withServices {} [halfBound]).registry = (withServices {} []).registry from hregistry]
      at hhas
    exact absurd (hhas.symm.trans hnone) (by simp)
  · intro h
    have hsame := h {} [] halfBound _ hfails
    rw [hroutes] at hsame
    exact absurd hsame (List.cons_ne_nil _ _)

end HostContext

end ServiceHost
