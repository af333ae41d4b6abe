import AppFunctionsSdk.Util.Strings

/-!
# The `edgex_profile` override of the command line

`applyCommandlineEnvironmentOverrides` runs before `flag.Parse`.  When the environment variable
`edgex_profile` is set, it rewrites every argument that contains `-p=` or `--profile=` into
`--profile=<value>`, and appends that argument when no argument was rewritten.  The value of
the variable and `os.Args` are arguments of the model; the result is `os.Args` after the call.

The test is a substring test, while `Initialize` declares the flags `-p` and `-profile`, which
Go's `flag` package accepts with one or two dashes, and with the value after `=` or in the
next argument.  `flagName` reads the flag name of one argument alone.  `flag.Parse` itself is
not modelled: it stops at the first argument that is not a flag, and a string flag written
without `=` takes the next argument as its value.

* `applyCommandlineEnvironmentOverrides_frame` — every argument without `-p=` or `--profile=`
  stays in its place, every other one becomes `--profile=<value>`, and `--profile=<value>` is
  always present.
* `applyCommandlineEnvironmentOverrides_rewrites_other_flags` — the test rewrites
  `--confdir=/res-p=1`, and it keeps `-profile=y` after the flag it rewrites.
-/

namespace AppFunctionsSdk
namespace AppSdk

open Util

/-- The test of the loop: the argument contains `-p=` or `--profile=`. -/
def isProfileArgument (option : String) : Bool :=
  stringsContains option "-p=" || stringsContains option "--profile="

/-- `applyCommandlineEnvironmentOverrides`, given the value of `edgex_profile` and `os.Args`. -/
def applyCommandlineEnvironmentOverrides (profileName : String) (args : List String) :
    List String :=
  if profileName = "" then args else
  let found := args.any isProfileArgument
  let args := args.map fun option =>
    if isProfileArgument option then "--profile=" ++ profileName else option
  if !found then args ++ ["--profile=" ++ profileName] else args

/-- The flag name one argument carries: the text after one or two leading dashes, up to the
first `=`; `none` for an argument without a leading dash.  The argument is read alone, not at
its place in the command line that `flag.Parse` scans. -/
def flagName (arg : String) : Option String :=
  match arg.data with
  | '-' :: '-' :: rest => some ⟨rest.takeWhile fun c => c != '='⟩
  | '-' :: rest => some ⟨rest.takeWhile fun c => c != '='⟩
  | _ => none

/-- An argument that sets the profile: the flag `p` or `profile`, in any spelling. -/
def isProfileOption (arg : String) : Bool :=
  flagName arg == some "p" || flagName arg == some "profile"

/-- With the variable set, every argument without `-p=` or `--profile=` stays in its place,
every other one becomes `--profile=<value>`, and `--profile=<value>` is appended when there
was none. -/
theorem applyCommandlineEnvironmentOverrides_frame (profileName : String)
    (hp : profileName ≠ "") (args : List String) :
    (∀ i (h : i < args.length), (applyCommandlineEnvironmentOverrides profileName args)[i]? =
        some (if isProfileArgument args[i] then "--profile=" ++ profileName else args[i])) ∧
      (applyCommandlineEnvironmentOverrides profileName args).length =
        args.length + (if args.any isProfileArgument then 0 else 1) ∧
      "--profile=" ++ profileName ∈ applyCommandlineEnvironmentOverrides profileName args := by
  unfold applyCommandlineEnvironmentOverrides
  rw [if_neg hp]
  dsimp only
  cases hfound : args.any isProfileArgument
  · refine ⟨fun i h => ?_, by simp, by simp⟩
    rw [Bool.not_false, if_pos rfl, List.getElem?_append_left (by simpa using h),
      List.getElem?_map, List.getElem?_eq_getElem h]
    rfl
  · obtain ⟨a, ha, hpa⟩ := List.any_eq_true.1 hfound
    refine ⟨fun i h => ?_, by simp, List.mem_map.2 ⟨a, ha, by rw [if_pos hpa]⟩⟩
    rw [Bool.not_true, if_neg Bool.false_ne_true, List.getElem?_map, List.getElem?_eq_getElem h]
    rfl

/-- With `edgex_profile=docker`: `--confdir=/res-p=1`, which sets the configuration directory,
is rewritten into the profile flag; and on `-p=x -profile=y` the rewritten `-p=x` is followed
by `-profile=y`, which `flag` reads last. -/
theorem applyCommandlineEnvironmentOverrides_rewrites_other_flags :
    isProfileOption "--confdir=/res-p=1" = false ∧
      applyCommandlineEnvironmentOverrides "docker" ["app", "--confdir=/res-p=1"] =
        ["app", "--profile=docker"] ∧
      isProfileOption "-profile=y" = true ∧
      applyCommandlineEnvironmentOverrides "docker" ["app", "-p=x", "-profile=y"] =
        ["app", "--profile=docker", "-profile=y"] := by
  decide

end AppSdk
end AppFunctionsSdk
