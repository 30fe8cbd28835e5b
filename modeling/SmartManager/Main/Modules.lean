/-
# `SmartManager.Main.Modules` — loading and unloading the modules (`smart_manager_main.c`)

`main` reads the `modules` list of the configuration and hands it to
`load_modules_from_config`.  For each name, that function tries the string entries of
`module_dirs` in order, then the current directory; in each place `load_module_from_directory`
builds `<dir>/<name>.mmext`, and `load_module` opens it with `dlopen` and looks up
`<name>_create`, `<name>_destroy` and `<name>_get_version`.  A library that opens but lacks one of
them is closed again, and the search goes on.  The first complete library wins; its
`_create` is called, and the module is kept.  After the halt, `main` calls `unload_module` on
each kept module: `_destroy`, then `dlclose`.

The dynamic loader is an input (`DlEnv`): what `dlopen` opens at a path and what `dlsym` finds
there, and what `getcwd` returns.  The model records the calls that take or give back a
resource (`LoaderCall`).

* `loadModulesFromConfig_modules`: the modules kept are, in configuration order, each module
  from the first place on the search path that holds a complete library for it.  A module with
  no such library is dropped, and the loading still succeeds.
* `mainRun_ledger`: over the whole life of `main`, the libraries closed are the libraries
  opened, as a multiset, and `_destroy` is called on the modules `_create` was called on, in the
  same order.  The balance is kept by every attempt of `load_module` (`Ledger`), and the loops
  over directories and names add up the attempts (`Ledger.append`).
-/
import Mathlib.Data.List.Basic

namespace SmartManager.Main

/-! ## §1 — the loader of `smart_manager_main.c` -/

/-- The dynamic loader and the process: `exports path` is `none` when `dlopen(path)` fails, and
otherwise the symbols `dlsym` finds in the library; `cwd` is what `getcwd(NULL, 0)` returns. -/
structure DlEnv where
  exports : String → Option (List String)
  cwd : Option String

/-- The calls that take or give back a library handle or a module context. -/
inductive LoaderCall where
  | dlopen (path : String)
  | dlclose (path : String)
  | create (moduleName : String)
  | destroy (moduleName : String)
  deriving DecidableEq, Repr

/-- `module_info_t` of a kept module: its name, and the library its handle was opened from. -/
structure ModuleInfo where
  moduleName : String
  handle : String
  deriving DecidableEq, Repr

/-- `"%s_create"`. -/
def createFuncName (moduleName : String) : String := moduleName ++ "_create"

/-- `"%s_destroy"`. -/
def destroyFuncName (moduleName : String) : String := moduleName ++ "_destroy"

/-- `"%s_get_version"`. -/
def getVersionFuncName (moduleName : String) : String := moduleName ++ "_get_version"

/-- `MMEXT_STR`, `"%s/%s.mmext"`. -/
def mmextPath (dir moduleName : String) : String := dir ++ "/" ++ moduleName ++ ".mmext"

/-- The `cleanup` of `load_module` with `ret = 1`, after a successful `dlopen`. -/
def loadModuleCleanup (libname : String) : List LoaderCall × Option ModuleInfo :=
  ([.dlopen libname, .dlclose libname], none)

/-- `load_module(libname, module_name, module)`: the calls it makes, and the module it fills
when it returns 0.  Each failed `dlsym` jumps to `cleanup`, which closes the library. -/
def loadModule (env : DlEnv) (libname moduleName : String) :
    List LoaderCall × Option ModuleInfo :=
  match env.exports libname with
  | none => ([], none)
  | some syms =>
    if createFuncName moduleName ∉ syms then loadModuleCleanup libname
    else if destroyFuncName moduleName ∉ syms then loadModuleCleanup libname
    else if getVersionFuncName moduleName ∉ syms then loadModuleCleanup libname
    else ([.dlopen libname], some ⟨moduleName, libname⟩)

/-- `load_module_from_directory(dir, module_name, cfg, module)`: `load_module` on
`<dir>/<module_name>.mmext`, then `create_func(cfg)` when it succeeds. -/
def loadModuleFromDirectory (env : DlEnv) (dir moduleName : String) :
    List LoaderCall × Option ModuleInfo :=
  match loadModule env (mmextPath dir moduleName) moduleName with
  | (calls, some m) => (calls ++ [.create moduleName], some m)
  | (calls, none) => (calls, none)

/-- The loop over `module_dirs` in `load_modules_from_config`: a `NULL` entry is skipped, and
the first directory that loads the module ends it. -/
def loadFromDirs (env : DlEnv) (moduleName : String) :
    List (Option String) → List LoaderCall × Option ModuleInfo
  | [] => ([], none)
  | none :: dirs => loadFromDirs env moduleName dirs
  | some dir :: dirs =>
    match loadModuleFromDirectory env dir moduleName with
    | (calls, some m) => (calls, some m)
    | (calls, none) =>
      (calls ++ (loadFromDirs env moduleName dirs).1, (loadFromDirs env moduleName dirs).2)

/-- One name of `modules`: the directories when `module_dirs` is an array (`moduleDirs`, `none`
when it is missing or not an array), then the current directory if none of them loaded it. -/
def loadConfiguredModule (env : DlEnv) (moduleDirs : Option (List (Option String)))
    (moduleName : String) : List LoaderCall × Option ModuleInfo :=
  match (moduleDirs.map (loadFromDirs env moduleName)).getD ([], none), env.cwd with
  | (calls, some m), _ => (calls, some m)
  | (calls, none), some cwd =>
    (calls ++ (loadModuleFromDirectory env cwd moduleName).1,
      (loadModuleFromDirectory env cwd moduleName).2)
  | (calls, none), none => (calls, none)

/-- One turn of the loop over `modules`: the calls so far, and `modules[0 .. num_modules)`. -/
def loadStep (env : DlEnv) (moduleDirs : Option (List (Option String)))
    (acc : List LoaderCall × List ModuleInfo) (moduleName : String) :
    List LoaderCall × List ModuleInfo :=
  (acc.1 ++ (loadConfiguredModule env moduleDirs moduleName).1,
    acc.2 ++ (loadConfiguredModule env moduleDirs moduleName).2.toList)

/-- `load_modules_from_config(cfg, &num_modules)`: `none` when the configuration has no
`modules`; otherwise the calls made and the `num_modules` modules kept, in order. -/
def loadModulesFromConfig (env : DlEnv) (moduleDirs : Option (List (Option String)))
    (modules : Option (List String)) : Option (List LoaderCall × List ModuleInfo) :=
  modules.map fun names => names.foldl (loadStep env moduleDirs) ([], [])

/-- `unload_module(module)` on a kept module. -/
def unloadModule (m : ModuleInfo) : List LoaderCall := [.destroy m.moduleName, .dlclose m.handle]

/-- `main` from `load_modules_from_config` to its return: the loader's calls, then those of
`unload_module` on each kept module; `none` when `main` returns early for want of `modules`. -/
def mainRun (env : DlEnv) (moduleDirs : Option (List (Option String)))
    (modules : Option (List String)) : Option (List LoaderCall) :=
  (loadModulesFromConfig env moduleDirs modules).map fun r => r.1 ++ r.2.flatMap unloadModule

/-! ## §2 — which modules are kept -/

/-- A library `load_module` accepts for a module: it opens and exports the three functions. -/
def Complete (env : DlEnv) (moduleName path : String) : Bool :=
  match env.exports path with
  | none => false
  | some syms => createFuncName moduleName ∈ syms && destroyFuncName moduleName ∈ syms &&
      getVersionFuncName moduleName ∈ syms

/-- Where a module is looked for, in order: the string entries of `module_dirs`, then the
current directory. -/
def searchPath (env : DlEnv) (moduleDirs : Option (List (Option String))) : List String :=
  (moduleDirs.getD []).filterMap id ++ env.cwd.toList

/-- The module kept for a name: from the first place on the search path with a complete
library. -/
def foundModule (env : DlEnv) (moduleDirs : Option (List (Option String))) (moduleName : String) :
    Option ModuleInfo :=
  ((searchPath env moduleDirs).find? fun dir => Complete env moduleName (mmextPath dir moduleName)).map
    fun dir => ⟨moduleName, mmextPath dir moduleName⟩

section Found

variable (env : DlEnv) (moduleName : String)

/-- What `load_module` can do: fail to open the library, open it and close it again, or keep
the module. -/
theorem loadModule_cases (libname : String) :
    loadModule env libname moduleName = ([], none) ∨
      loadModule env libname moduleName = loadModuleCleanup libname ∨
      loadModule env libname moduleName = ([.dlopen libname], some ⟨moduleName, libname⟩) := by
  unfold loadModule
  split
  · exact .inl rfl
  · split_ifs <;> simp

theorem loadModule_snd (libname : String) :
    (loadModule env libname moduleName).2 =
      if Complete env moduleName libname then some ⟨moduleName, libname⟩ else none := by
  unfold loadModule Complete
  split
  · rfl
  · split_ifs <;> simp_all [loadModuleCleanup]

theorem loadModuleFromDirectory_snd (dir : String) :
    (loadModuleFromDirectory env dir moduleName).2 =
      if Complete env moduleName (mmextPath dir moduleName)
      then some ⟨moduleName, mmextPath dir moduleName⟩ else none := by
  rw [← loadModule_snd]
  unfold loadModuleFromDirectory
  split <;> simp_all

/-- One directory of the loop: its module if it has one, and otherwise the rest of the loop's. -/
theorem loadFromDirs_cons_snd (dir : String) (dirs : List (Option String)) :
    (loadFromDirs env moduleName (some dir :: dirs)).2 =
      (loadModuleFromDirectory env dir moduleName).2.or (loadFromDirs env moduleName dirs).2 := by
  rcases h : loadModuleFromDirectory env dir moduleName with ⟨calls, _ | m⟩ <;>
    simp [loadFromDirs, h]

/-- The directory loop keeps the module of the first directory with a complete library. -/
theorem loadFromDirs_snd : ∀ dirs : List (Option String),
    (loadFromDirs env moduleName dirs).2 =
      ((dirs.filterMap id).find? fun dir => Complete env moduleName (mmextPath dir moduleName)).map
        fun dir => ⟨moduleName, mmextPath dir moduleName⟩
  | [] => rfl
  | none :: dirs => loadFromDirs_snd dirs
  | some dir :: dirs => by
    rw [loadFromDirs_cons_snd, loadModuleFromDirectory_snd, loadFromDirs_snd dirs]
    by_cases hc : Complete env moduleName (mmextPath dir moduleName) <;> simp [List.find?_cons, hc]

/-- One name: the module the directories give, and otherwise the current directory's. -/
theorem loadConfiguredModule_snd_eq (moduleDirs : Option (List (Option String))) :
    (loadConfiguredModule env moduleDirs moduleName).2 =
      ((moduleDirs.map (loadFromDirs env moduleName)).getD ([], none)).2.or
        (env.cwd.bind fun cwd => (loadModuleFromDirectory env cwd moduleName).2) := by
  unfold loadConfiguredModule
  split <;> simp_all

theorem loadConfiguredModule_snd (moduleDirs : Option (List (Option String))) :
    (loadConfiguredModule env moduleDirs moduleName).2 = foundModule env moduleDirs moduleName := by
  have hdirs : ((moduleDirs.map (loadFromDirs env moduleName)).getD ([], none)).2 =
      (((moduleDirs.getD []).filterMap id).find? fun dir =>
        Complete env moduleName (mmextPath dir moduleName)).map
          fun dir => ⟨moduleName, mmextPath dir moduleName⟩ := by
    cases moduleDirs
    · rfl
    · exact loadFromDirs_snd env moduleName _
  rw [loadConfiguredModule_snd_eq, hdirs, foundModule, searchPath, List.find?_append]
  cases env.cwd with
  | none => simp
  | some cwd =>
    by_cases hc : Complete env moduleName (mmextPath cwd moduleName) <;>
      cases (((moduleDirs.getD []).filterMap id).find? _) <;> simp [loadModuleFromDirectory_snd, hc]

end Found

/-- **`load_modules_from_config` keeps each configured module from the first place on the
search path with a complete library**: the `module_dirs` entries in order, then the current
directory.  A name with no complete library anywhere is dropped and the loading goes on, and a
name listed twice is loaded twice. -/
theorem loadModulesFromConfig_modules (env : DlEnv) (moduleDirs : Option (List (Option String)))
    (names : List String) :
    (loadModulesFromConfig env moduleDirs (some names)).map (·.2) =
      some (names.filterMap (foundModule env moduleDirs)) := by
  have hfold : ∀ (ns : List String) (acc : List LoaderCall × List ModuleInfo),
      (ns.foldl (loadStep env moduleDirs) acc).2 =
        acc.2 ++ ns.filterMap (foundModule env moduleDirs) := by
    intro ns
    induction ns with
    | nil => simp
    | cons n ns ih =>
      intro acc
      rw [List.foldl_cons, ih, loadStep, loadConfiguredModule_snd, List.filterMap_cons]
      cases foundModule env moduleDirs n <;> simp
  simp [loadModulesFromConfig, hfold]

/-- `dcs` has a library without `dcs_destroy` in `/a` and a complete one in `/b`. -/
def twoDirEnv : DlEnv where
  exports path :=
    if path = "/a/dcs.mmext" then some ["dcs_create", "dcs_get_version"]
    else if path = "/b/dcs.mmext" then some ["dcs_create", "dcs_destroy", "dcs_get_version"]
    else none
  cwd := some "/c"

/-- The first library is opened and closed again; the second is kept; `absent` is dropped. -/
example : mainRun twoDirEnv (some [some "/a", none, some "/b"]) (some ["dcs", "absent"]) =
    some [.dlopen "/a/dcs.mmext", .dlclose "/a/dcs.mmext", .dlopen "/b/dcs.mmext", .create "dcs",
      .destroy "dcs", .dlclose "/b/dcs.mmext"] := by decide

/-! ## §3 — every handle given back -/

def LoaderCall.opened? : LoaderCall → Option String
  | .dlopen path => some path
  | _ => none

def LoaderCall.closed? : LoaderCall → Option String
  | .dlclose path => some path
  | _ => none

def LoaderCall.created? : LoaderCall → Option String
  | .create moduleName => some moduleName
  | _ => none

def LoaderCall.destroyed? : LoaderCall → Option String
  | .destroy moduleName => some moduleName
  | _ => none

/-- The balance of a stretch of the loader that keeps the modules `ms`: the libraries it opened
are those it closed and those the modules hold, it created exactly the modules it keeps, in
order, and destroyed none. -/
structure Ledger (calls : List LoaderCall) (ms : List ModuleInfo) : Prop where
  handles : (calls.filterMap LoaderCall.opened?).Perm
    (calls.filterMap LoaderCall.closed? ++ ms.map (·.handle))
  created : calls.filterMap LoaderCall.created? = ms.map (·.moduleName)
  destroyed : calls.filterMap LoaderCall.destroyed? = []

theorem Ledger.nil : Ledger [] [] := ⟨by simp, rfl, rfl⟩

theorem Ledger.append {a b : List LoaderCall} {ms ms' : List ModuleInfo} (ha : Ledger a ms)
    (hb : Ledger b ms') : Ledger (a ++ b) (ms ++ ms') := by
  refine ⟨?_, by simp [ha.created, hb.created], by simp [ha.destroyed, hb.destroyed]⟩
  simp only [List.filterMap_append, List.map_append, List.append_assoc]
  refine (ha.handles.append hb.handles).trans ?_
  simp only [List.append_assoc]
  exact List.Perm.append_left _ (List.perm_append_comm_assoc _ _ _)

section Attempts

variable (env : DlEnv) (moduleName : String)

/-- One attempt of `load_module_from_directory` keeps the balance. -/
theorem loadModuleFromDirectory_ledger (dir : String) :
    Ledger (loadModuleFromDirectory env dir moduleName).1
      (loadModuleFromDirectory env dir moduleName).2.toList := by
  unfold loadModuleFromDirectory
  rcases loadModule_cases env moduleName (mmextPath dir moduleName) with h | h | h <;> rw [h]
  · exact Ledger.nil
  · exact ⟨by simp [loadModuleCleanup, LoaderCall.opened?, LoaderCall.closed?], rfl, rfl⟩
  · exact ⟨by simp [LoaderCall.opened?, LoaderCall.closed?], rfl, rfl⟩

theorem loadFromDirs_ledger : ∀ dirs : List (Option String),
    Ledger (loadFromDirs env moduleName dirs).1 (loadFromDirs env moduleName dirs).2.toList
  | [] => Ledger.nil
  | none :: dirs => loadFromDirs_ledger dirs
  | some dir :: dirs => by
    have h := loadModuleFromDirectory_ledger env moduleName dir
    unfold loadFromDirs
    split
    · next heq => rw [heq] at h; exact h
    · next heq => rw [heq] at h; exact h.append (loadFromDirs_ledger dirs)

theorem loadConfiguredModule_ledger (moduleDirs : Option (List (Option String))) :
    Ledger (loadConfiguredModule env moduleDirs moduleName).1
      (loadConfiguredModule env moduleDirs moduleName).2.toList := by
  have h : Ledger ((moduleDirs.map (loadFromDirs env moduleName)).getD ([], none)).1
      ((moduleDirs.map (loadFromDirs env moduleName)).getD ([], none)).2.toList := by
    cases moduleDirs
    · exact Ledger.nil
    · exact loadFromDirs_ledger env moduleName _
  unfold loadConfiguredModule
  split
  · next heq => rw [heq] at h; exact h
  · next heq _ => rw [heq] at h; exact h.append (loadModuleFromDirectory_ledger env moduleName _)
  · next heq _ => rw [heq] at h; exact h

end Attempts

theorem loadModulesFromConfig_ledger (env : DlEnv) (moduleDirs : Option (List (Option String)))
    (names : List String) :
    ∃ calls ms, loadModulesFromConfig env moduleDirs (some names) = some (calls, ms) ∧
      Ledger calls ms := by
  have hfold : ∀ (ns : List String) (acc : List LoaderCall × List ModuleInfo),
      Ledger acc.1 acc.2 → Ledger (ns.foldl (loadStep env moduleDirs) acc).1
        (ns.foldl (loadStep env moduleDirs) acc).2 := by
    intro ns
    induction ns with
    | nil => exact fun _ h => h
    | cons n ns ih =>
      exact fun acc h => ih _ (h.append (loadConfiguredModule_ledger env n moduleDirs))
  exact ⟨_, _, rfl, hfold names ([], []) Ledger.nil⟩

/-- `unload_module` on each kept module gives back its handle and destroys it, in order. -/
theorem flatMap_unloadModule (ms : List ModuleInfo) :
    (ms.flatMap unloadModule).filterMap LoaderCall.opened? = [] ∧
      (ms.flatMap unloadModule).filterMap LoaderCall.closed? = ms.map (·.handle) ∧
      (ms.flatMap unloadModule).filterMap LoaderCall.created? = [] ∧
      (ms.flatMap unloadModule).filterMap LoaderCall.destroyed? = ms.map (·.moduleName) := by
  induction ms with
  | nil => simp
  | cons m ms ih =>
    simp [unloadModule, LoaderCall.opened?, LoaderCall.closed?, LoaderCall.created?,
      LoaderCall.destroyed?, ih]

/-- **`main` gives back everything it takes.**  Whatever the loader finds and whatever the
configuration lists, over the life of `main` the libraries passed to `dlclose` are, as a
multiset, those `dlopen` opened, and `_destroy` is called on exactly the modules `_create` was
called on, in the same order. -/
theorem mainRun_ledger (env : DlEnv) (moduleDirs : Option (List (Option String)))
    (names : List String) :
    ∃ calls, mainRun env moduleDirs (some names) = some calls ∧
      (calls.filterMap LoaderCall.opened?).Perm (calls.filterMap LoaderCall.closed?) ∧
      calls.filterMap LoaderCall.destroyed? = calls.filterMap LoaderCall.created? := by
  obtain ⟨calls, ms, hrun, h⟩ := loadModulesFromConfig_ledger env moduleDirs names
  obtain ⟨ho, hc, hcr, hd⟩ := flatMap_unloadModule ms
  refine ⟨_, by rw [mainRun, hrun]; rfl, ?_, ?_⟩
  · simpa [List.filterMap_append, ho, hc] using h.handles
  · simp [List.filterMap_append, hcr, hd, h.created, h.destroyed]

end SmartManager.Main
