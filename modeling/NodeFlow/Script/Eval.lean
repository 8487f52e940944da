import NodeFlow.Script.Builtin
import NodeFlow.Script.Grammar

/-! # Running scripts

    Fuel bounds the depth of the evaluation and the rounds of loops together.
    A script that uses it up would go on for longer than anyone waits. -/

namespace NodeFlow.Script

/-- How a statement ends, unless it stops evaluation. -/
inductive Completion where
  /-- The next statement comes. -/
  | goesOn
  /-- The function returns. -/
  | returns (v : Value)
  /-- A loop is left. -/
  | leaves (label : Option String)
  /-- A loop goes on with its next round. -/
  | nexts (label : Option String)
  deriving Repr

/-- What a loop does after its body. -/
def Completion.afterRound (labels : List String) :
    Completion → Option Completion
  | .goesOn | .nexts none => none
  | .nexts (some l) =>
      if labels.contains l then none else some (.nexts (some l))
  | .leaves none => some .goesOn
  | c => some c

/-- What a statement with a label ends with. -/
def Completion.afterLabel (label : String) : Completion → Completion
  | .leaves (some l) => if l = label then .goesOn else .leaves (some l)
  | c => c

/-- Members without those that have been taken. -/
def membersWithout (taken : List (List Nat)) (v : Value) : Value :=
  .plain (v.members.filter (fun m => !taken.contains m.1))

/-- The value after a decision, unless another one has to be worked out. -/
def Decision.settles (d : Decision) (v : Value) : Bool :=
  match d with
  | .orElse => !v.isMissing
  | .or => v.truthy
  | .and => !v.truthy

/-- The same place with new cells for some names, filled as the old ones. -/
def renewed (place : Place) (own : List String) : Act Place := do
  let fresh ← own.mapM (fun n => do
    let s ← get
    let old := (place.scope.lookup n).map (fun i => s.cells.getD i default)
    let c := old.getD default
    return (n, ← Act.newCell c.value c.constant))
  return ⟨fresh ++ place.scope, place.itself⟩

mutual

/-- Call a function. -/
def callValue : Nat → Caller
  | 0, _, _, _ => throw .endless
  | fuel + 1, f, itself, args =>
      match f with
      | .function place _ _ => do
          match (← get).functions[place]? with
          | some c =>
              Act.inside (do
                let itself := if c.arrow then c.place.itself else itself
                callClosure fuel f c itself args)
          | none => return .undefined
      | .builtin path =>
          if f.isCallable then Builtin.apply (callValue fuel) path itself args
          else Act.typeFault "not a callable function"
      | _ => Act.typeFault "not a callable function"

/-- Call a function of the script. -/
def callClosure : Nat → Value → Closure → Value → List Value → Act Value
  | 0, _, _, _, _ => throw .endless
  | fuel + 1, f, c, itself, args => do
      let known ←
        if c.name.isEmpty then pure []
        else Act.newCells [c.name] (some f) false
      let given ←
        if c.arrow then pure []
        else Act.newCells ["arguments"] (some (.arguments args)) false
      let own ← Act.newCells (parameterNames c.parameters) none false
      let place : Place := ⟨own ++ given ++ known ++ c.place.scope, itself⟩
      takeArguments fuel place c.parameters args
      runBody fuel place c.body

/-- Run the statements of a function; its value is what it returns. -/
def runBody : Nat → Place → List Stmt → Act Value
  | 0, _, _ => throw .endless
  | fuel + 1, place, body => do
      let declared :=
        (Stmt.variableNamesAll body).filter
          (fun n => (place.scope.lookup n).isNone)
      let own ← Act.newCells declared (some .undefined) false
      let place ← enter fuel ⟨own ++ place.scope, place.itself⟩ body
      match ← executeAll fuel place body with
      | .returns v => return v
      | _ => return .undefined

/-- The place inside a group: its names are known, but have no values yet,
    except for functions. -/
def enter : Nat → Place → List Stmt → Act Place
  | 0, _, _ => throw .endless
  | fuel + 1, place, body => do
      let constants := body.flatMap (fun s =>
        match s with
        | .declare .constant taker _ => taker.names
        | _ => [])
      let own ←
        ((body.flatMap Stmt.lexicalNames).eraseDups).mapM (fun n => do
          return (n, ← Act.newCell none (constants.contains n)))
      let functions ←
        Act.newCells (Stmt.definedNames body) (some .undefined) false
      let place : Place := ⟨functions ++ own ++ place.scope, place.itself⟩
      body.forM (fun s =>
        match s with
        | .define name f => do
            Act.store place.scope name (← evaluate fuel place f)
        | _ => return ())
      return place

/-- Give the parameters of a function their values. -/
def takeArguments : Nat → Place → List Parameter → List Value → Act Unit
  | 0, _, _, _ => throw .endless
  | _ + 1, _, [], _ => return ()
  | fuel + 1, place, .mk t true :: _, args => take fuel place t (.list args)
  | fuel + 1, place, .mk t false :: rest, args => do
      take fuel place t (args.headD .undefined)
      takeArguments fuel place rest args.tail

/-- Give a value to what takes it. -/
def take : Nat → Place → Taker → Value → Act Unit
  | 0, _, _, _ => throw .endless
  | fuel + 1, place, t, v =>
      match t with
      | .name s =>
          match place.scope.lookup s with
          | some cell => Act.fill cell v
          | none => Act.store place.scope s v
      | .withDefault t other =>
          match v with
          | .undefined => do take fuel place t (← evaluate fuel place other)
          | v => take fuel place t v
      | .members parts rest =>
          if v.isMissing then Act.typeFault Value.noObject
          else do
            let taken ← takeMembers fuel place parts v
            match rest with
            | some s => take fuel place (.name s) (membersWithout taken v)
            | none => return ()
      | .items parts rest => do
          let items ← v.itemsOf
          takeItems fuel place parts items
          match rest with
          | some t => take fuel place t (.list (items.drop parts.length))
          | none => return ()

/-- Give the properties of a value to what takes them; the names of these
    properties. -/
def takeMembers : Nat → Place → List (Expr × Taker) → Value →
    Act (List (List Nat))
  | 0, _, _, _ => throw .endless
  | _ + 1, _, [], _ => return []
  | fuel + 1, place, (k, t) :: more, v => do
      let key ← (← evaluate fuel place k).toText (callValue fuel)
      take fuel place t (← v.property key)
      return key :: (← takeMembers fuel place more v)

/-- Give items to what takes them. -/
def takeItems : Nat → Place → List (Option Taker) → List Value → Act Unit
  | 0, _, _, _ => throw .endless
  | _ + 1, _, [], _ => return ()
  | fuel + 1, place, none :: more, items =>
      takeItems fuel place more items.tail
  | fuel + 1, place, some t :: more, items => do
      take fuel place t (items.headD .undefined)
      takeItems fuel place more items.tail

/-- The value of an expression. -/
def evaluate : Nat → Place → Expr → Act Value
  | 0, _, _ => throw .endless
  | fuel + 1, place, e =>
      match e with
      | .literal v => return v
      | .name s => Act.look place.scope s
      | .itself => return place.itself
      | .list items => do return .list (← evaluateItems fuel place items)
      | .spread a => evaluate fuel place a
      | .object members => do
          let (parent, ms) ← evaluateMembers fuel place Value.root members
          return .object parent (Value.lastMembers ms)
      | .joined first rest => do
          let texts ← rest.mapM (fun (a, after) => do
            let t ← (← evaluate fuel place a).toText (callValue fuel)
            return t ++ after)
          return .text (first ++ texts.flatten)
      | .property _ _ | .index _ _ | .call _ _ | .present _ => do
          return ((← follow fuel place e).map (fun p => p.1)).getD .undefined
      | .chain a => do
          return ((← follow fuel place a).map (fun p => p.1)).getD .undefined
      | .construct f args => do
          let g ← evaluate fuel place f
          let vs ← evaluateItems fuel place args
          match g with
          | .builtin path =>
              if g.isCallable then Builtin.construct (callValue fuel) path vs
              else Act.typeFault "not a constructor"
          | .function n _ _ => do
              let arrow := ((← get).functions[n]?).any (fun c => c.arrow)
              if arrow then Act.typeFault "not a constructor"
              else
                let made := Value.plain []
                let v ← callValue fuel g made vs
                return if v.isPrimitive then made else v
          | _ => Act.typeFault "not a constructor"
      | .unary .kind (.name s) => do
          match ← Act.find? place.scope s with
          | some v => return .ofString v.kind
          | none => return .ofString "undefined"
      | .unary op a => do
          Value.operateOn (callValue fuel) op (← evaluate fuel place a)
      | .binary op a b => do
          let v ← evaluate fuel place a
          Value.operate (callValue fuel) op v (← evaluate fuel place b)
      | .decide d a b => do
          let v ← evaluate fuel place a
          if d.settles v then return v else evaluate fuel place b
      | .choice c yes no => do
          if (← evaluate fuel place c).truthy then evaluate fuel place yes
          else evaluate fuel place no
      | .sequence a b => do
          let _ ← evaluate fuel place a
          evaluate fuel place b
      | .assign s none a => do
          let v ← evaluate fuel place a
          Act.store place.scope s v
          return v
      | .assign s (some op) a => do
          let old ← Act.look place.scope s
          let v ← evaluate fuel place a
          let v ← Value.operate (callValue fuel) op old v
          Act.store place.scope s v
          return v
      | .assignUnless s d a => do
          let old ← Act.look place.scope s
          if d.settles old then return old
          else
            let v ← evaluate fuel place a
            Act.store place.scope s v
            return v
      | .count s down after => do
          let old ← Act.look place.scope s
          let (before, now) ← Value.counted (callValue fuel) down old
          Act.store place.scope s now
          return if after then before else now
      | .function name parameters arrow body =>
          Act.newFunction name
            (parameters.takeWhile (fun p =>
              match p with
              | .mk (.withDefault _ _) _ | .mk _ true => false
              | _ => true)).length
            ⟨(Value.nameOf? name).getD "", parameters, arrow, body, place⟩

/-- The value of a part of a chain, and what a function in it would belong
    to; nothing when a part is missing that need not be there. -/
def follow : Nat → Place → Expr → Act (Option (Value × Value))
  | 0, _, _ => throw .endless
  | fuel + 1, place, e =>
      match e with
      | .property target key => do
          match ← follow fuel place target with
          | none => return none
          | some (v, _) => return some (← v.property key, v)
      | .index target k => do
          match ← follow fuel place target with
          | none => return none
          | some (v, _) =>
              let key ← evaluate fuel place k
              if v.isMissing then Act.typeFault Value.noObject
              else
                let key ← key.toText (callValue fuel)
                return some (← v.property key, v)
      | .call f args => do
          match ← follow fuel place f with
          | none => return none
          | some (g, itself) =>
              let vs ← evaluateItems fuel place args
              return some (← callValue fuel g itself vs, .undefined)
      | .present a => do
          match ← follow fuel place a with
          | none => return none
          | some (v, itself) =>
              return if v.isMissing then none else some (v, itself)
      | a => do return some (← evaluate fuel place a, .undefined)

/-- The values of expressions, one after the other. -/
def evaluateItems : Nat → Place → List Expr → Act (List Value)
  | 0, _, _ => throw .endless
  | _ + 1, _, [] => return []
  | fuel + 1, place, .spread a :: rest => do
      let items ← (← evaluate fuel place a).itemsOf
      return items ++ (← evaluateItems fuel place rest)
  | fuel + 1, place, a :: rest => do
      let v ← evaluate fuel place a
      return v :: (← evaluateItems fuel place rest)

/-- The parent and the members of an object, one member after the other. -/
def evaluateMembers : Nat → Place → Value → List Member →
    Act (Value × List (List Nat × Value))
  | 0, _, _, _ => throw .endless
  | _ + 1, _, parent, [] => return (parent, [])
  | fuel + 1, place, parent, m :: rest => do
      match m with
      | .named key a =>
          let v ← evaluate fuel place a
          let (parent, ms) ← evaluateMembers fuel place parent rest
          return (parent, (key, v) :: ms)
      | .computed k a =>
          let key ← (← evaluate fuel place k).toText (callValue fuel)
          let v ← evaluate fuel place a
          let (parent, ms) ← evaluateMembers fuel place parent rest
          return (parent, (key, v) :: ms)
      | .parent a =>
          let v ← evaluate fuel place a
          let usable :=
            match v with
            | .null => true
            | v => !v.isPrimitive
          evaluateMembers fuel place (if usable then v else parent) rest
      | .spread a =>
          let v ← evaluate fuel place a
          let (parent, ms) ← evaluateMembers fuel place parent rest
          return (parent, v.members ++ ms)

/-- Run a statement, which has labels in front of it. -/
def execute : Nat → Place → List String → Stmt → Act Completion
  | 0, _, _, _ => throw .endless
  | fuel + 1, place, labels, s =>
      match s with
      | .declare how t value => do
          match value, how with
          | some a, _ => take fuel place t (← evaluate fuel place a)
          | none, .variable => pure ()
          | none, _ => take fuel place t .undefined
          return .goesOn
      | .define _ _ => return .goesOn
      | .ret a => do return .returns (← evaluate fuel place a)
      | .throw a => do throw (.thrown (← evaluate fuel place a))
      | .repeat c body atLeastOnce =>
          rounds fuel place labels (if atLeastOnce then none else some c) c
            (.literal .undefined) [] body
      | .loop start c step body => do
          let inner ← enter fuel place start
          let _ ← executeAll fuel inner start
          rounds fuel inner labels (some c) c step
            (start.flatMap Stmt.lexicalNames) body
      | .each how t names a body => do
          let v ← evaluate fuel place a
          let items ←
            if names then
              pure (v.members.map (fun m => .text m.1))
            else v.itemsOf
          eachItem fuel place labels how t items body
      | .choose c yes no => do
          if (← evaluate fuel place c).truthy then execute fuel place [] yes
          else execute fuel place [] no
      | .select a cases => do
          let v ← evaluate fuel place a
          let inner ← enter fuel place (cases.flatMap (fun c => c.2))
          let body ← chosenCases fuel inner v cases cases
          match ← executeAll fuel inner body with
          | .leaves none => return .goesOn
          | done => return done
      | .block body => do
          let inner ← enter fuel place body
          executeAll fuel inner body
      | .attempt body t handler finish => do
          let guarded : Act Completion := do
            let inner ← enter fuel place body
            executeAll fuel inner body
          let handled : Act Completion :=
            match handler with
            | none => guarded
            | some h =>
                tryCatch guarded (fun e => do
                  match e with
                  | .thrown v =>
                      let names := (t.map Taker.names).getD []
                      let own ← Act.newCells names none false
                      let inner : Place := ⟨own ++ place.scope, place.itself⟩
                      match t with
                      | some t => take fuel inner t v
                      | none => pure ()
                      let inner ← enter fuel inner h
                      executeAll fuel inner h
                  | e => throw e)
          let ending : Act Completion := do
            let inner ← enter fuel place finish
            executeAll fuel inner finish
          let done ← tryCatch (do return Except.ok (← handled)) (fun e =>
            match e with
            | .thrown v => return Except.error v
            | e => throw e)
          match ← ending, done with
          | .goesOn, .ok c => return c
          | .goesOn, .error v => throw (.thrown v)
          | other, _ => return other
      | .leave label => return .leaves label
      | .next label => return .nexts label
      | .labelled label body => do
          return (← execute fuel place (label :: labels) body).afterLabel label
      | .eval a => do
          let _ ← evaluate fuel place a
          return .goesOn

/-- The statements from the case on that is chosen for a value. -/
def chosenCases : Nat → Place → Value → List (Option Expr × List Stmt) →
    List (Option Expr × List Stmt) → Act (List Stmt)
  | 0, _, _, _, _ => throw .endless
  | _ + 1, _, _, all, [] =>
      return (all.dropWhile (fun c => c.1.isSome)).flatMap (fun c => c.2)
  | fuel + 1, place, v, all, (none, _) :: rest =>
      chosenCases fuel place v all rest
  | fuel + 1, place, v, all, (some a, body) :: rest => do
      let w ← evaluate fuel place a
      if Value.same v w then
        return body ++ rest.flatMap (fun c => c.2)
      else chosenCases fuel place v all rest

/-- The rounds of a loop; the condition is looked at before this one if
    `first` is there.  Each round has cells of its own for some names. -/
def rounds : Nat → Place → List String → Option Expr → Expr → Expr →
    List String → Stmt → Act Completion
  | 0, _, _, _, _, _, _, _ => throw .endless
  | fuel + 1, place, labels, first, c, step, own, body => do
      Act.round
      let goesOn ←
        match first with
        | some c => do pure (← evaluate fuel place c).truthy
        | none => pure true
      if goesOn then
        let done ← execute fuel place [] body
        match done.afterRound labels with
        | some c => return c
        | none =>
            let place ← renewed place own
            let _ ← evaluate fuel place step
            rounds fuel place labels (some c) c step own body
      else return .goesOn

/-- The rounds of a loop over items. -/
def eachItem : Nat → Place → List String → Binding → Taker → List Value →
    Stmt → Act Completion
  | 0, _, _, _, _, _, _ => throw .endless
  | _ + 1, _, _, _, _, [], _ => return .goesOn
  | fuel + 1, place, labels, how, t, v :: rest, body => do
      Act.round
      let own ←
        if how = .variable then pure []
        else Act.newCells t.names none (how = .constant)
      let inner : Place := ⟨own ++ place.scope, place.itself⟩
      take fuel inner t v
      let done ← execute fuel inner [] body
      match done.afterRound labels with
      | some c => return c
      | none => eachItem fuel place labels how t rest body

/-- Run statements, one after the other. -/
def executeAll : Nat → Place → List Stmt → Act Completion
  | 0, _, _ => throw .endless
  | _ + 1, _, [] => return .goesOn
  | fuel + 1, place, s :: rest => do
      match ← execute fuel place [] s with
      | .goesOn => executeAll fuel place rest
      | done => return done

end

/-- The fuel of a script. -/
def allowance : Nat := 100000000

/-- The name of what a script is given. -/
def inputsName : String := "inputs"

/-- Call a function of a script. -/
def call : Caller := callValue allowance

/-- What a script returns for its inputs. -/
def returned (code : String) (inputs : Value) : Act Value :=
  match Stmt.ofText? code with
  | none => Act.fault "SyntaxError" "unexpected token"
  | some body => do
      let f ←
        Act.newFunction (Text.units "anonymous") 1
          ⟨"", [.mk (.name inputsName) false], false, body,
            ⟨[], .builtin "globalThis"⟩⟩
      call f (.builtin "globalThis") [inputs]

end NodeFlow.Script
