import Slipway.Task.Registry

/-!
# The standard tasks

Every workspace has four tasks: `build`, `check_code`, `test` and `publish`. Their commands follow
from the settings; all of them carry the variables of the settings and run at the root.
-/

namespace Slipway

/-- Choices for one invocation that are not part of the settings. -/
structure TaskOptions where
  /-- The only package to be tested. -/
  testPackage : Option String := none
  /-- Whether tests are run by `cargo nextest`. -/
  nextest : Bool := false
  deriving Repr, DecidableEq

namespace Task

/-- A command at the root with the variables of the settings. -/
def rooted (root : Path) (env : List (String × String)) (program : String)
    (args : List String) : Command :=
  { program, args, dir := some root, env }

/-- Where the compiler leaves the wasm file of a package. -/
def wasmFile (target package : String) : Path :=
  let file := package.map fun c => if c = '-' then '_' else c
  "target/" ++ target ++ "/release/" ++ file ++ ".wasm"

/-- The commands that compile a package to wasm and shrink the result. -/
def wasmCommands (root : Path) (env : List (String × String)) (b : BuildSettings)
    (package : String) : List Command :=
  let wasm := wasmFile b.wasmTarget package
  [rooted root env "cargo" ["build", "--target", b.wasmTarget, "--release", "-p", package],
    rooted root env b.wasmTool [wasm, "-o", wasm, "shrink"]]

/-- Builds the workspace and then each wasm package. -/
def build (root : Path) (env : List (String × String)) (s : Settings) : Task :=
  { name := "build"
    description := "Build the workspace and wasm packages"
    action := .commands
      (rooted root env "cargo" ["build", "--workspace", "--all-targets"] ::
        s.build.wasmPackages.flatMap (wasmCommands root env s.build)) }

/-- Checks the formatting and runs the linter. -/
def checkCode (root : Path) (env : List (String × String)) : Task :=
  { name := "check_code"
    description := "Check formatting and run clippy"
    action := .commands
      [rooted root env "cargo" ["fmt", "--all", "--", "--check"],
        rooted root env "cargo"
          ["clippy", "--workspace", "--all-targets", "--all-features", "--", "-D", "warnings"]] }

/-- The arguments of the command that runs the tests. -/
def testArgs (options : TaskOptions) : List String :=
  let scope :=
    match options.testPackage with
    | some package => ["-p", package]
    | none => ["--workspace"]
  let output := ["--failure-output", "immediate-final", "--success-output", "never"]
  (if options.nextest then ["nextest", "run"] else ["test"]) ++ scope ++ ["--all-features"] ++
    if options.nextest then output else []

/-- Runs the tests, after the build if the settings ask for it. -/
def test (root : Path) (env : List (String × String)) (s : Settings) (options : TaskOptions) :
    Task :=
  { name := "test"
    description := "Run the test suite"
    dependencies := if s.test.dependsOnBuild then ["build"] else []
    action := .commands [rooted root env "cargo" (testArgs options)] }

/-- Publishes the packages of the settings. -/
def publish (plan : Publish.Plan) : Task :=
  { name := "publish"
    description := "Publish the configured packages in order"
    action := .publish plan }

end Task

/-- The standard tasks of a workspace. They exist if every variable of the settings is well
formed. -/
def Registry.standard (root : Path) (s : Settings) (options : TaskOptions) :
    Except Failure Registry := do
  let env ← s.environment
  let plan ← Publish.Plan.ofSettings root s
  return Registry.registerAll {}
    [Task.build root env s, Task.checkCode root env, Task.test root env s options,
      Task.publish plan]

end Slipway
