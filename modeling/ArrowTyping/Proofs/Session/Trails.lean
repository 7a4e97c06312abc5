import ArrowTyping.Session

set_option autoImplicit false

/-!
# Sessions and their trails

The trails of a history know no environments: for each number they hold the scopes that were put
inside one another on the way there.  A session in which the history took place has the same
numbers, and the environment under each of them is made of the scopes of its trail
(`envs_run`).  So what can be asked about it is told by one flat list of bindings, the scopes of
the trail one after the other (`AnswersFrom`).

A request that extends an environment puts a new one behind those that are there, and the other
requests change nothing.  So the list of environments only ever grows at its end
(`envs_prefix_of_run`), and an answer stays the same whatever is asked later.
-/

namespace ArrowTyping

/-! ## Environments made of scopes -/

namespace Env

theorem ofScopes_append_singleton (scopes : List Scope) (scope : Scope) :
    ofScopes (scopes ++ [scope]) = (ofScopes scopes).extend scope := by
  simp [ofScopes, extendAll]

theorem bindings_ofScopes (scopes : List Scope) : (ofScopes scopes).bindings = scopes.flatten := by
  rw [ofScopes, bindings_extendAll]
  rfl

theorem depth_ofScopes (scopes : List Scope) : (ofScopes scopes).depth = 1 + scopes.length := by
  rw [ofScopes, depth_extendAll]
  rfl

end Env

namespace Session

variable {s s' : Session} {number : Nat} {request : Request} {answer : Answer}
  {answers : List Answer} {history : List (Nat × Request)} {trails : List (List Scope)}

/-! ## One request -/

/-- A request is answered when it names an environment of the list. -/
theorem exists_ask_iff :
    (∃ s' answer, s.ask number request = some (s', answer)) ↔ number < s.envs.length := by
  rw [ask]
  constructor
  · intro h
    obtain ⟨s', answer, h⟩ := h
    obtain ⟨env, henv, -⟩ := Option.map_eq_some_iff.1 h
    exact (List.getElem?_eq_some_iff.1 henv).1
  · intro h
    rw [List.getElem?_eq_getElem h]
    exact ⟨_, _, rfl⟩

section Questions

variable {env : Env} (h : s.envs[number]? = some env)
include h

/-! A question changes nothing. -/

theorem ask_lookup (x : String) :
    s.ask number (.lookup x) = some (s, .found (env.lookup? x)) := by
  rw [ask, h]
  rfl

theorem ask_fetch (x : String) (place : Position) :
    s.ask number (.fetch x place) = some (s, .fetched (env.fetch x place)) := by
  rw [ask, h]
  rfl

theorem ask_depth : s.ask number .depth = some (s, .counted env.depth) := by
  rw [ask, h]
  rfl

end Questions

/-- The environments that are made of the trails stay so when the trails follow the request. -/
theorem envs_ask (h : s.ask number request = some (s', answer))
    (hs : s.envs = trails.map Env.ofScopes) :
    s'.envs = (follow trails (number, request)).map Env.ofScopes := by
  rw [ask, Option.map_eq_some_iff] at h
  obtain ⟨env, henv, hstep⟩ := h
  cases request with
  | extend scope =>
    cases hstep
    rw [hs, List.getElem?_map, Option.map_eq_some_iff] at henv
    obtain ⟨trail, htrail, rfl⟩ := henv
    simp only [follow, htrail, hs, List.map_append, List.map_cons, List.map_nil,
      Env.ofScopes_append_singleton]
  | _ =>
    cases hstep
    exact hs

/-- Whatever is asked, the environments that are there stay where they are. -/
theorem envs_prefix_of_ask (h : s.ask number request = some (s', answer)) :
    s.envs <+: s'.envs := by
  rw [ask, Option.map_eq_some_iff] at h
  obtain ⟨env, -, hstep⟩ := h
  cases request with
  | extend scope =>
    cases hstep
    exact List.prefix_append _ _
  | _ =>
    cases hstep
    exact List.prefix_rfl

/-! ## Whole histories -/

theorem run_cons_eq_some_iff :
    s.run ((number, request) :: history) = some (s', answers) ↔
      ∃ between answer later, s.ask number request = some (between, answer) ∧
        between.run history = some (s', later) ∧ answers = answer :: later := by
  simp only [run, Option.bind_eq_bind, Option.bind_eq_some_iff, Prod.exists, Option.pure_def,
    Option.some.injEq, Prod.mk.injEq]
  constructor
  · intro h
    obtain ⟨between, answer, hask, last, later, hrun, rfl, rfl⟩ := h
    exact ⟨between, answer, later, hask, hrun, rfl⟩
  · intro h
    obtain ⟨between, answer, later, hask, hrun, rfl⟩ := h
    exact ⟨between, answer, hask, s', later, hrun, rfl, rfl⟩

/-- The environments of a session are made of the trails of its history. -/
theorem envs_run (h : s.run history = some (s', answers)) (hs : s.envs = trails.map Env.ofScopes) :
    s'.envs = (history.foldl follow trails).map Env.ofScopes := by
  induction history generalizing s trails answers with
  | nil =>
    cases h
    exact hs
  | cons entry history ih =>
    obtain ⟨between, answer, later, hask, hrun, -⟩ := run_cons_eq_some_iff.1 h
    exact ih hrun (envs_ask hask hs)

/-- The list of environments only grows at its end. -/
theorem envs_prefix_of_run (h : s.run history = some (s', answers)) : s.envs <+: s'.envs := by
  induction history generalizing s answers with
  | nil =>
    cases h
    exact List.prefix_rfl
  | cons entry history ih =>
    obtain ⟨between, answer, later, hask, hrun, -⟩ := run_cons_eq_some_iff.1 h
    exact (envs_prefix_of_ask hask).trans (ih hrun)

/-- So an environment keeps its number. -/
theorem getElem?_of_run {env : Env} (h : s.run history = some (s', answers))
    (henv : s.envs[number]? = some env) : s'.envs[number]? = some env := by
  obtain ⟨added, hadded⟩ := envs_prefix_of_run h
  have hnumber : number < s.envs.length := (List.getElem?_eq_some_iff.1 henv).1
  rw [← hadded, List.getElem?_append_left hnumber, henv]

/-- Every request of a history that begins with these trails names an environment that is in the
list by then. -/
def Listed (trails : List (List Scope)) : List (Nat × Request) → Prop
  | [] => True
  | (number, request) :: history =>
    number < trails.length ∧ Listed (follow trails (number, request)) history

/-- A history takes place when its requests name environments of the list. -/
theorem exists_run_iff (hs : s.envs = trails.map Env.ofScopes) :
    (∃ s' answers, s.run history = some (s', answers)) ↔ Listed trails history := by
  induction history generalizing s trails with
  | nil => exact ⟨fun _ => trivial, fun _ => ⟨s, [], rfl⟩⟩
  | cons entry history ih =>
    have hlength : s.envs.length = trails.length := by rw [hs, List.length_map]
    constructor
    · intro h
      obtain ⟨s', answers, h⟩ := h
      obtain ⟨between, answer, later, hask, hrun, -⟩ := run_cons_eq_some_iff.1 h
      have hnumber : entry.1 < s.envs.length := exists_ask_iff.1 ⟨between, answer, hask⟩
      exact ⟨hlength ▸ hnumber, (ih (envs_ask hask hs)).1 ⟨s', later, hrun⟩⟩
    · intro h
      obtain ⟨hnumber, hlisted⟩ := h
      obtain ⟨between, answer, hask⟩ := exists_ask_iff.2 (hlength.symm ▸ hnumber)
      obtain ⟨s', later, hrun⟩ := (ih (envs_ask hask hs)).2 hlisted
      exact ⟨s', answer :: later, run_cons_eq_some_iff.2 ⟨between, answer, later, hask, hrun, rfl⟩⟩

/-! ## Answers -/

/-- What can be asked about the names and the depth of an environment is told by the scopes of a
trail: the last binding of a name gives its type, a name without binding has none and is reported
where it is used, and every scope counts for the depth, besides the empty environment. -/
structure AnswersFrom (s : Session) (number : Nat) (trail : List Scope) : Prop where
  bound : ∀ x T, Scope.LastBinds trail.flatten x T →
    s.ask number (.lookup x) = some (s, .found (some T)) ∧
    ∀ place, s.ask number (.fetch x place) = some (s, .fetched (.ok T))
  unbound : ∀ x, x ∉ Scope.names trail.flatten →
    s.ask number (.lookup x) = some (s, .found none) ∧
    ∀ place, s.ask number (.fetch x place) = some (s, .fetched (.error ⟨.unbound x, place⟩))
  depth : s.ask number .depth = some (s, .counted (1 + trail.length))

/-- An environment that is made of the scopes of a trail answers from this trail. -/
theorem answersFrom_of_getElem? {trail : List Scope}
    (h : s.envs[number]? = some (Env.ofScopes trail)) : s.AnswersFrom number trail where
  bound x T hbinds := by
    have hlookup : (Env.ofScopes trail).lookup? x = some T := by
      rw [Env.lookup?_eq_lookup?_bindings, Env.bindings_ofScopes]
      exact Scope.lookup?_eq_some_iff.2 hbinds
    refine ⟨?_, fun place => ?_⟩
    · rw [ask_lookup h, hlookup]
    · rw [ask_fetch h, Env.fetch_eq_ok_iff.2 hlookup]
  unbound x hunbound := by
    have hlookup : (Env.ofScopes trail).lookup? x = none := by
      rw [Env.lookup?_eq_lookup?_bindings, Env.bindings_ofScopes]
      exact Scope.lookup?_eq_none_iff_names.2 hunbound
    refine ⟨?_, fun place => ?_⟩
    · rw [ask_lookup h, hlookup]
    · rw [ask_fetch h, Env.fetch_eq_error_iff.2 ⟨hlookup, rfl⟩]
  depth := by rw [ask_depth h, Env.depth_ofScopes]

/-- A history takes place exactly when each of its requests names an environment that is in the list
by then.  After it the list has one environment for each trail, which answers from this trail, and
it goes on to do so whatever is asked later. -/
theorem run_answers_from_trails (history : List (Nat × Request)) :
    ((∃ s answers, start.run history = some (s, answers)) ↔ Listed [[]] history) ∧
    ∀ s answers, start.run history = some (s, answers) →
      s.envs.length = (Session.trails history).length ∧
      ∀ number trail, (Session.trails history)[number]? = some trail →
        s.AnswersFrom number trail ∧
        ∀ later s' answers', s.run later = some (s', answers') → s'.AnswersFrom number trail := by
  have hstart : start.envs = [[]].map Env.ofScopes := rfl
  refine ⟨exists_run_iff hstart, ?_⟩
  intro s answers hrun
  have henvs : s.envs = (Session.trails history).map Env.ofScopes := envs_run hrun hstart
  refine ⟨by rw [henvs, List.length_map], ?_⟩
  intro number trail htrail
  have henv : s.envs[number]? = some (Env.ofScopes trail) := by
    rw [henvs, List.getElem?_map, htrail, Option.map_some]
  refine ⟨answersFrom_of_getElem? henv, ?_⟩
  intro later s' answers' hlater
  exact answersFrom_of_getElem? (getElem?_of_run hlater henv)

/-- Two scopes one inside the other, the inner one empty, and a sibling of the outer one. -/
def siblingHistory : List (Nat × Request) :=
  [(0, .extend [⟨"x", .number⟩, ⟨"x", .boolean⟩]), (1, .extend []), (0, .extend [⟨"x", .number⟩])]

/-- The inner scope of `siblingHistory` knows the last `x` of the outer one and nothing of the
sibling, also after it has been extended itself. -/
theorem run_answers_from_trails_siblingHistory :
    ∃ s answers, start.run siblingHistory = some (s, answers) ∧
      s.AnswersFrom 2 [[⟨"x", .number⟩, ⟨"x", .boolean⟩], []] ∧
      ∃ s' answers', s.run [(2, .extend [⟨"x", .number⟩]), (4, .lookup "x")] = some (s', answers') ∧
        s'.AnswersFrom 2 [[⟨"x", .number⟩, ⟨"x", .boolean⟩], []] := by
  obtain ⟨-, hanswers⟩ := (run_answers_from_trails siblingHistory).2 _ _ rfl
  obtain ⟨hnow, hlater⟩ := hanswers 2 [[⟨"x", .number⟩, ⟨"x", .boolean⟩], []] rfl
  have hthen := hlater [(2, .extend [⟨"x", .number⟩]), (4, .lookup "x")] _ _ rfl
  exact ⟨_, _, rfl, hnow, _, _, rfl, hthen⟩

end Session

end ArrowTyping
