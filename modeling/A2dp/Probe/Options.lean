/-!
# Options of the command line

Arguments are taken from left to right; the first one that is misused, or that asks for help or
the version, decides. An option that takes a value has it after `=` or in the next argument,
which then must not look like an option.
-/

namespace A2dp.Probe

/-- What the command line asks for. -/
structure Options where
  /-- The capability in hexadecimal. -/
  input : Option String := none
  json : Bool := false
  listFamilies : Bool := false
  /-- The name of a codec index. -/
  index : Option String := none
  contentProtection : Bool := false
  /-- The path of the log settings. -/
  logSettings : Option String := none
  verbosity : Nat := 0
  deriving DecidableEq, Repr

/-- The meaning of a command line. -/
inductive Invocation where
  | run (options : Options)
  | help
  | version
  | misuse
  deriving DecidableEq, Repr

/-- What one argument does. -/
inductive Effect where
  /-- The options change. -/
  | sets (options : Options)
  /-- The next argument is a value. -/
  | awaits (store : String → Effect)
  /-- The meaning is found. -/
  | ends (meaning : Invocation)

namespace Options

def switch (before : Bool) (attached : Option String) (after : Options) : Effect :=
  if before || attached.isSome then .ends .misuse else .sets after

/-- Takes a value, attached or from the next argument. -/
def value (attached : Option String) (store : String → Effect) : Effect :=
  match attached with
  | some text => store text
  | none => .awaits store

def storeIndex (o : Options) (name : String) : Effect :=
  if o.index.isSome then .ends .misuse else .sets { o with index := some name }

/-- Stores the path of the log settings, once. A path is not empty. -/
def storeLogSettings (o : Options) (path : String) : Effect :=
  if o.logSettings.isSome || path.isEmpty then .ends .misuse
  else .sets { o with logSettings := some path }

def storeInput (o : Options) (input : String) : Effect :=
  if o.input.isSome then .ends .misuse else .sets { o with input := some input }

/-- An option by its name, with the value after `=`. -/
def long (o : Options) (name : String) (attached : Option String) : Effect :=
  if name = "json" then switch o.json attached { o with json := true }
  else if name = "list-families" then
    switch o.listFamilies attached { o with listFamilies := true }
  else if name = "content-protection" then
    switch o.contentProtection attached { o with contentProtection := true }
  else if name = "index" then value attached o.storeIndex
  else if name = "log-config" then value attached o.storeLogSettings
  else if name = "verbose" then switch false attached { o with verbosity := o.verbosity + 1 }
  else if attached.isSome then .ends .misuse
  else if name = "help" then .ends .help
  else if name = "version" then .ends .version
  else .ends .misuse

def short (o : Options) : List Char → Effect
  | [] => .sets o
  | 'v' :: letters => short { o with verbosity := o.verbosity + 1 } letters
  | 'h' :: _ => .ends .help
  | 'V' :: _ => .ends .version
  | _ :: _ => .ends .misuse

/-- The argument looks like an option. A single dash does not. -/
def looksLikeOption (arg : String) : Bool :=
  match arg.toList with
  | '-' :: _ :: _ => true
  | _ => false

/-- One argument before any `--`. -/
def argument (o : Options) (arg : String) : Effect :=
  match arg.toList with
  | '-' :: '-' :: chars =>
    let name := chars.takeWhile (· != '=')
    match chars.dropWhile (· != '=') with
    | _ :: attached => o.long (String.ofList name) (some (String.ofList attached))
    | [] => o.long (String.ofList name) none
  | '-' :: c :: chars => o.short (c :: chars)
  | _ => o.storeInput arg

/-- The arguments after `--` are inputs, whatever they look like. -/
def inputs (o : Options) : List String → Invocation
  | [] => .run o
  | arg :: rest =>
    match o.storeInput arg with
    | .sets o => inputs o rest
    | _ => .misuse

/-- The meaning of the arguments that follow. -/
def parse (o : Options) : List String → Invocation
  | [] => .run o
  | arg :: rest =>
    if arg = "--" then o.inputs rest
    else
      match o.argument arg with
      | .sets o => parse o rest
      | .ends meaning => meaning
      | .awaits store =>
        match rest with
        | [] => .misuse
        | text :: rest =>
          if looksLikeOption text then .misuse
          else
            match store text with
            | .sets o => parse o rest
            | .ends meaning => meaning
            | .awaits _ => .misuse

end Options

/-- The meaning of a command line. -/
def Invocation.ofArguments (args : List String) : Invocation := ({} : Options).parse args

end A2dp.Probe
