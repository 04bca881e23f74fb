import ClusterAccess.Operator.Finished

/-!
# Sessions of operator configurations

A session holds the configurations made so far. An edit makes another one from one of them;
an attribute or a child can be assigned to one of them in place. What is refused changes nothing.
-/

namespace ClusterAccess.OperatorConfig

structure Session where
  configs : List (Finished OperatorConfig) := []
  deriving Repr

namespace Session

inductive Action
  | edit (position : Nat) (e : Edit)
  | assign (position : Nat) (name : String) (v : Value)
  | assignChild (position : Nat) (k : ResourceKind) (u : UpdateStrategy)
  deriving Repr

def add (s : Session) (made : Except Failure (Finished OperatorConfig)) :
    Session × Except Failure Unit :=
  match made with
  | .ok x => ({ s with configs := s.configs ++ [x] }, .ok ())
  | .error e => (s, .error e)

def replace (s : Session) (position : Nat) (made : Except Failure (Finished OperatorConfig)) :
    Session × Except Failure Unit :=
  match made with
  | .ok x => ({ s with configs := s.configs.set position x }, .ok ())
  | .error e => (s, .error e)

/-- One action; there is nothing to do at a position without a configuration. -/
def step (s : Session) : Action → Session × Except Failure Unit
  | .edit position e =>
    match s.configs[position]? with
    | none => (s, .ok ())
    | some x => s.add (x.edit e)
  | .assign position name v =>
    match s.configs[position]? with
    | none => (s, .ok ())
    | some x => s.replace position (x.assign name v)
  | .assignChild position k u =>
    match s.configs[position]? with
    | none => (s, .ok ())
    | some x => s.replace position ((x.value.assignChild k u).map fun c => { x with value := c })

def run (s : Session) (actions : List Action) : Session :=
  actions.foldl (fun s a => (s.step a).1) s

end Session
end ClusterAccess.OperatorConfig
