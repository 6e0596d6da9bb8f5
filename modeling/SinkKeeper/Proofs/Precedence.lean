import SinkKeeper.Environment.Loading
import SinkKeeper.Proofs.Builders

/-!
# Which source counts

What a variable is after loading: what it was, if it was set; else what the vault has for it, the user's own secret
first; else what the file of settings says. No secret is asked for without need.
-/

namespace SinkKeeper

variable {vault : Vault} {environment : Environment} {name : String}

/-! ## Sources -/

/-- The text of a secret, if there is one and it is not empty. -/
def Vault.text? (vault : Vault) (name : String) : Option String :=
  match vault.secret name with
  | .held text => text.filter (· ≠ "")
  | .refused _ => none

theorem Vault.text?_of_held {text : Option String} (h : vault.secret name = .held text) :
    vault.text? name = if text.getD "" = "" then none else some (text.getD "") := by
  rw [Vault.text?, h]
  cases text with
  | none => rfl
  | some text =>
      by_cases ht : text = ""
      · simp [ht]
      · simp [Option.filter, ht]

/-- The secrets up to the first that has a text. -/
def Vault.upToText (vault : Vault) : List String → List String
  | [] => []
  | name :: rest => name :: if (vault.text? name).isSome then [] else vault.upToText rest

/-- The text of the first secret of a variable that has one. -/
def Vault.textFor (vault : Vault) (user variableName : String) : Option String :=
  (secretNames user variableName).findSome? vault.text?

/-- A value of the environment that is not empty, or else of the settings, without blanks around it. -/
def Environment.choice (environment : Environment) (settings : Settings) (name : String) : String :=
  Text.strip ((((environment.get? name).filter (· ≠ "")).or (Settings.valueOf settings name)).getD "")

/-- Variables that are set stay as they are. -/
def Environment.Keeps (environment later : Environment) : Prop :=
  ∀ name value, environment.get? name = some value → later.get? name = some value

theorem Environment.Keeps.refl : environment.Keeps environment := fun _ _ h => h

theorem Environment.Keeps.trans {later last : Environment} (h : environment.Keeps later) (h' : later.Keeps last) :
    environment.Keeps last := fun name value hv => h' name value (h name value hv)

theorem Environment.Keeps.unset {later : Environment} (h : environment.Keeps later) (hl : later.get? name = none) :
    environment.get? name = none := by
  cases hv : environment.get? name with
  | none => rfl
  | some value => cases (h name value hv).symm.trans hl

theorem Environment.get?_set (environment : Environment) (name value other : String) :
    (environment.set name value).get? other = if other = name then some value else environment.get? other := by
  by_cases h : other = name
  · rw [if_pos h, h, Environment.get?_set_self]
  · rw [if_neg h, Environment.get?_set_of_ne _ h]

theorem Environment.isSet_eq_false : environment.isSet name = false ↔ environment.get? name = none := by
  rw [Environment.isSet, Option.isSome_eq_false_iff, Option.isNone_iff_eq_none]

theorem Settings.valueOf_cons (first : String) (value : Option String) (settings : Settings) (name : String) :
    Settings.valueOf ((first, value) :: settings) name =
      if name = first then value else Settings.valueOf settings name := by
  by_cases h : name = first
  · simp [Settings.valueOf, h]
  · have hb : (name == first) = false := beq_false_of_ne h
    simp [Settings.valueOf, List.lookup_cons, h, hb]

theorem Settings.valueOf_of_notMem {settings : Settings} (h : name ∉ settings.map (·.1)) :
    Settings.valueOf settings name = none := by
  induction settings with
  | nil => rfl
  | cons p settings ih =>
      rw [List.map_cons, List.mem_cons, not_or] at h
      rw [Settings.valueOf_cons p.1 p.2, if_neg h.1, ih h.2]

/-- A secret stops a loading: the vault fails over it as no vault does, or no variable can have its text. -/
inductive Vault.Stops (vault : Vault) (variableName name : String) : Failure → Prop
  | refused {f : Fault} (refused : vault.secret name = .refused f) (other : f.kind.isVault = false) :
      Stops vault variableName name (.fault f)
  | unfit {text : String} {flaw : VariableFlaw} (held : vault.text? name = some text)
      (unfit : VariableFlaw.of? variableName text = some flaw) : Stops vault variableName name (.variable flaw)

/-! ## How loading ends -/

/-- A loading went on: the environment became another, and secrets were asked for. -/
structure Loading.Went (s : Loading) (environment : Environment) (asked : List String) (later : Loading) : Prop where
  environment : later.environment = environment
  asked : later.asked = s.asked ++ asked
  opened : later.opened = s.opened

namespace Load

variable {α β : Type} {work : Load α} {next : α → Load β} {s : Loading} {e : Failure} {settings : Settings}
  {Q Q' : Except Failure α → Loading → Prop} {variableName : String} {variableNames : List String}

/-- Work ends, and leaves the loading, as `Q` tells. -/
def Ends (work : Load α) (s : Loading) (Q : Except Failure α → Loading → Prop) : Prop :=
  match work s with
  | .ok a s' => Q (.ok a) s'
  | .error e s' => Q (.error e) s'

theorem Ends.mono (h : Ends work s Q) (hq : ∀ r s', Q r s' → Q' r s') : Ends work s Q' := by
  unfold Ends at *
  cases hw : work s with
  | ok a s' =>
      rw [hw] at h
      exact hq _ _ h
  | error e s' =>
      rw [hw] at h
      exact hq _ _ h

theorem Ends.pure {a : α} (h : Q (.ok a) s) : Ends (pure a) s Q := h

theorem Ends.throw (h : Q (.error e) s) : Ends (throw e) s Q := h

theorem Ends.bind {Q : Except Failure β → Loading → Prop}
    (h : Ends work s fun r s' =>
      match r with
      | .ok a => Ends (next a) s' Q
      | .error e => Q (.error e) s') : Ends (work >>= next) s Q := by
  unfold Ends at h
  cases hw : work s with
  | ok a s' =>
      rw [hw] at h
      simpa only [Ends, Bind.bind, EStateM.bind, hw] using h
  | error e s' =>
      rw [hw] at h
      simpa only [Ends, Bind.bind, EStateM.bind, hw] using h

theorem Ends.get {Q : Except Failure Loading → Loading → Prop} (h : Q (.ok s) s) : Ends (get : Load Loading) s Q := h

theorem Ends.modify {f : Loading → Loading} {Q : Except Failure Unit → Loading → Prop} (h : Q (.ok ()) (f s)) :
    Ends (modify f : Load Unit) s Q := h

-- The rules say all that is used of it; unfolding it would run the loading.
attribute [irreducible] Ends

/-! ## Steps -/

theorem setIfUnset_ends (name value : String) (s : Loading) :
    Ends (setIfUnset name value) s fun r s' =>
      match r with
      | .ok () => s.Went (if s.environment.isSet name then s.environment else s.environment.set name value) [] s'
      | .error e => s' = s ∧ s.environment.get? name = none ∧
          ∃ flaw, VariableFlaw.of? name value = some flaw ∧ e = .variable flaw := by
  refine .bind (.get ?_)
  dsimp only
  cases hset : s.environment.isSet name with
  | true => exact .pure ⟨rfl, (List.append_nil _).symm, rfl⟩
  | false =>
      cases hflaw : VariableFlaw.of? name value with
      | some flaw => exact .throw ⟨rfl, Environment.isSet_eq_false.mp hset, flaw, rfl, rfl⟩
      | none => exact .modify ⟨rfl, (List.append_nil _).symm, rfl⟩

theorem ask_ends {Q : Except Failure Secret → Loading → Prop}
    (h : Q (.ok (vault.secret name)) { s with asked := s.asked ++ [name] }) : Ends (ask vault name) s Q :=
  .bind (.modify (.pure h))

theorem note_ends {level : Level} {text : String} {Q : Except Failure Unit → Loading → Prop}
    (h : ∀ s', s.Went s.environment [] s' → Q (.ok ()) s') : Ends (note level text) s Q :=
  .modify (h _ ⟨rfl, (List.append_nil _).symm, rfl⟩)

/-- Secrets were asked for up to the first that has a text, which the variable was set to, or one of them stopped it. -/
def FromSecrets (vault : Vault) (variableName : String) (names : List String) (s : Loading) :
    Except Failure Unit → Loading → Prop
  | .ok (), s' =>
    s.Went ((names.findSome? vault.text?).elim s.environment (s.environment.set variableName)) (vault.upToText names) s'
  | .error e, s' =>
    s.environment.Keeps s'.environment ∧ ∃ name ∈ vault.upToText names, vault.Stops variableName name e

theorem FromSecrets.afterEmpty {names : List String} {s s₁ s' : Loading} {r : Except Failure Unit}
    (h : FromSecrets vault variableName names s₁ r s') (henv : s₁.environment = s.environment)
    (hasked : s₁.asked = s.asked ++ [name]) (hopened : s₁.opened = s.opened) (hnone : vault.text? name = none) :
    FromSecrets vault variableName (name :: names) s r s' := by
  have hupTo : vault.upToText (name :: names) = name :: vault.upToText names := by
    rw [Vault.upToText, hnone]
    rfl
  cases r with
  | ok _ =>
      refine ⟨?_, ?_, h.opened.trans hopened⟩
      · rw [h.environment, henv, List.findSome?_cons_of_isNone (by rw [hnone]; rfl)]
      · rw [h.asked, hasked, hupTo, List.append_assoc]
        rfl
  | error e =>
      obtain ⟨hkeeps, asked, hmem, hstops⟩ := h
      rw [henv] at hkeeps
      refine ⟨hkeeps, asked, ?_, hstops⟩
      rw [hupTo]
      exact List.mem_cons_of_mem _ hmem

theorem fromSecrets_ends (names : List String) (hs : s.environment.isSet variableName = false) :
    Ends (fromSecrets vault variableName names) s (FromSecrets vault variableName names s) := by
  induction names generalizing s with
  | nil => exact .pure ⟨rfl, (List.append_nil _).symm, rfl⟩
  | cons name names ih =>
      refine .bind (ask_ends ?_)
      dsimp only
      cases hsecret : vault.secret name with
      | held text =>
          dsimp only
          split
          · rename_i hempty
            have hnone : vault.text? name = none := by rw [Vault.text?_of_held hsecret, if_pos hempty]
            have hunset : ({ s with asked := s.asked ++ [name] } : Loading).environment.isSet variableName = false := hs
            exact (ih hunset).mono fun r s' hq => FromSecrets.afterEmpty hq rfl rfl rfl hnone
          · rename_i hsome
            have htext := Vault.text?_of_held hsecret
            rw [if_neg hsome] at htext
            refine .bind ((setIfUnset_ends _ _ _).mono ?_)
            rintro (e | ⟨⟩) s₁ hq
            · obtain ⟨rfl, -, flaw, hflaw, rfl⟩ := hq
              exact ⟨.refl, name, List.mem_cons_self, .unfit htext hflaw⟩
            · refine note_ends fun s₂ hs₂ => ⟨?_, ?_, hs₂.opened.trans hq.opened⟩
              · rw [hs₂.environment, hq.environment, hs, List.findSome?_cons_of_isSome (by rw [htext]; rfl), htext]
                rfl
              · rw [hs₂.asked, hq.asked, Vault.upToText, htext]
                simp
      | refused f =>
          dsimp only
          split
          · refine .bind (note_ends fun s₁ hs₁ => ?_)
            have hunset : s₁.environment.isSet variableName = false := by
              rw [hs₁.environment]
              exact hs
            refine (ih hunset).mono fun r s' hq => FromSecrets.afterEmpty hq hs₁.environment ?_ hs₁.opened ?_
            · rw [hs₁.asked, List.append_nil]
            · rw [Vault.text?, hsecret]
          · rename_i hother
            exact .throw ⟨.refl, name, List.mem_cons_self, .refused hsecret (Bool.eq_false_iff.mpr hother)⟩

/-- What the vault gives for a variable that is asked for, which is one that is not set. -/
theorem fromVault_ends (user : String) (hnodup : variableNames.Nodup) (s : Loading) :
    Ends (fromVault vault user variableNames) s fun r s' =>
      match r with
      | .ok () =>
        (∀ name, s'.environment.get? name =
          (s.environment.get? name).or (if name ∈ variableNames then vault.textFor user name else none)) ∧
        s'.asked = s.asked ++ (variableNames.filter (!s.environment.isSet ·)).flatMap
          (fun name => vault.upToText (secretNames user name)) ∧
        s'.opened = s.opened
      | .error e => s.environment.Keeps s'.environment ∧ ∃ variableName ∈ variableNames,
          s.environment.get? variableName = none ∧
          ∃ name ∈ vault.upToText (secretNames user variableName), vault.Stops variableName name e := by
  induction variableNames generalizing s with
  | nil => exact .pure ⟨fun name => by simp, by simp, rfl⟩
  | cons first variableNames ih =>
      obtain ⟨hfirst, hrest⟩ := List.nodup_cons.mp hnodup
      refine .bind (.get ?_)
      dsimp only
      cases hset : s.environment.isSet first with
      | true =>
          refine .bind (.pure ?_)
          refine (ih hrest s).mono ?_
          rintro (e | ⟨⟩) s' hq
          · exact ⟨hq.1, hq.2.imp fun _ h => ⟨List.mem_cons_of_mem _ h.1, h.2⟩⟩
          · obtain ⟨henv, hasked, hopened⟩ := hq
            refine ⟨fun name => ?_, ?_, hopened⟩
            · rw [henv]
              by_cases hn : name = first
              · obtain ⟨value, hvalue⟩ := Option.isSome_iff_exists.mp hset
                rw [hn, hvalue]
                rfl
              · simp only [List.mem_cons, hn, false_or]
            · rw [hasked, List.filter_cons_of_neg (by simp [hset])]
      | false =>
          have hnone := Environment.isSet_eq_false.mp hset
          refine .bind ((fromSecrets_ends _ hset).mono ?_)
          rintro (e | ⟨⟩) s₁ hq
          · exact ⟨hq.1, first, List.mem_cons_self, hnone, hq.2⟩
          · have hget : ∀ name, s₁.environment.get? name =
                if name = first then vault.textFor user first else s.environment.get? name := by
              intro name
              rw [hq.environment, Vault.textFor]
              cases (secretNames user first).findSome? vault.text? with
              | some value => exact Environment.get?_set _ _ _ _
              | none =>
                  split
                  · rename_i hn
                    rw [hn]
                    exact hnone
                  · rfl
            -- The variables after it are set just if they were.
            have hkept : ∀ name ∈ variableNames, (!s₁.environment.isSet name) = !s.environment.isSet name := by
              intro name hn
              have hne : name ≠ first := fun h => hfirst (h ▸ hn)
              rw [Environment.isSet, Environment.isSet, hget, if_neg hne]
            have hkeeps : s.environment.Keeps s₁.environment := by
              intro name value hv
              rw [hget, if_neg, hv]
              rintro rfl
              cases hnone.symm.trans hv
            refine (ih hrest s₁).mono ?_
            rintro (e | ⟨⟩) s' hq'
            · obtain ⟨hkeeps', variableName, hmem, hunset, hstops⟩ := hq'
              exact ⟨hkeeps.trans hkeeps', variableName, List.mem_cons_of_mem _ hmem, hkeeps.unset hunset, hstops⟩
            · obtain ⟨henv, hasked, hopened⟩ := hq'
              refine ⟨fun name => ?_, ?_, hopened.trans hq.opened⟩
              · rw [henv, hget]
                by_cases hn : name = first
                · simp [hn, hfirst, hnone]
                · simp [hn]
              · rw [hasked, hq.asked, List.filter_congr hkept, List.filter_cons_of_pos (by simp [hset]),
                  List.flatMap_cons, List.append_assoc]

/-- Each variable that was not set was set to what the settings have for it, or no variable can have that. -/
def FromSettings (settings : Settings) (s : Loading) : Except Failure Unit → Loading → Prop
  | .ok (), s' =>
    (∀ name, s'.environment.get? name = (s.environment.get? name).or (Settings.valueOf settings name)) ∧
      s'.asked = s.asked ∧ s'.opened = s.opened
  | .error e, s' =>
    s.environment.Keeps s'.environment ∧ ∃ name text flaw, (name, some text) ∈ settings ∧
      s.environment.get? name = none ∧ VariableFlaw.of? name text = some flaw ∧ e = .variable flaw

theorem FromSettings.after {first : String} {value : Option String} {rest : Settings} {s s₁ s' : Loading}
    {r : Except Failure Unit} (h : FromSettings rest s₁ r s') (hfirst : Settings.valueOf rest first = none)
    (hget : ∀ name, s₁.environment.get? name =
      if name = first then (s.environment.get? first).or value else s.environment.get? name)
    (hasked : s₁.asked = s.asked) (hopened : s₁.opened = s.opened) :
    FromSettings ((first, value) :: rest) s r s' := by
  have hkeeps : s.environment.Keeps s₁.environment := by
    intro name value hv
    rw [hget]
    split
    · rename_i hn
      rw [← hn, hv]
      rfl
    · exact hv
  cases r with
  | ok _ =>
      obtain ⟨henv, hasked', hopened'⟩ := h
      refine ⟨fun name => ?_, hasked'.trans hasked, hopened'.trans hopened⟩
      rw [henv, hget, Settings.valueOf_cons]
      by_cases hn : name = first
      · simp [hn, hfirst]
      · simp [hn]
  | error e =>
      obtain ⟨hkeeps', name, text, flaw, hmem, hunset, hflaw, he⟩ := h
      exact ⟨hkeeps.trans hkeeps', name, text, flaw, List.mem_cons_of_mem _ hmem, hkeeps.unset hunset, hflaw, he⟩

theorem fromSettings_ends (hnodup : (settings.map (·.1)).Nodup) (s : Loading) :
    Ends (fromSettings settings) s (FromSettings settings s) := by
  induction settings generalizing s with
  | nil => exact .pure ⟨fun name => (Option.or_none).symm, rfl, rfl⟩
  | cons p rest ih =>
      obtain ⟨first, value⟩ := p
      obtain ⟨hfirst, hrest⟩ := List.nodup_cons.mp hnodup
      have hnone : Settings.valueOf rest first = none := Settings.valueOf_of_notMem hfirst
      cases value with
      | none =>
          refine .bind (.pure ?_)
          refine (ih hrest s).mono fun r s' hq => FromSettings.after hq hnone (fun name => ?_) rfl rfl
          split
          · rename_i hn
            rw [hn, Option.or_none]
          · rfl
      | some text =>
          refine .bind ((setIfUnset_ends first text s).mono ?_)
          rintro (e | ⟨⟩) s₁ hq
          · obtain ⟨rfl, hunset, flaw, hflaw, rfl⟩ := hq
            exact ⟨.refl, first, text, flaw, List.mem_cons_self, hunset, hflaw, rfl⟩
          · refine (ih hrest s₁).mono fun r s' hr =>
              FromSettings.after hr hnone (fun name => ?_) (hq.asked.trans (List.append_nil _)) hq.opened
            rw [hq.environment]
            cases hset : s.environment.isSet first with
            | true =>
                obtain ⟨value, hvalue⟩ := Option.isSome_iff_exists.mp hset
                by_cases hn : name = first
                · simp [hn, hvalue]
                · simp [hn]
            | false =>
                rw [Environment.isSet_eq_false.mp hset]
                exact Environment.get?_set _ _ _ _

theorem chosen_ends {Q : Except Failure String → Loading → Prop}
    (h : Q (.ok (s.environment.choice settings name)) s) : Ends (chosen settings name) s Q := by
  refine .bind (.get (.pure ?_))
  have hchoice : s.environment.choice settings name = Text.strip (if (s.environment.get? name).getD "" = ""
      then (Settings.valueOf settings name).getD "" else (s.environment.get? name).getD "") := by
    rw [Environment.choice]
    cases s.environment.get? name with
    | none => rfl
    | some value =>
        by_cases hv : value = ""
        · simp [Option.filter, hv]
        · simp [Option.filter, hv]
  rwa [← hchoice]

end Load

/-! ## What is loaded -/

/-- What the sources give: the environment that variables are loaded into, the vault, and the settings. -/
structure Sources where
  environment : Environment
  vault : Vault
  settings : Settings

namespace Sources

variable (s : Sources)

def vaultName : String := s.environment.choice s.settings vaultVariable

def userName : String := Text.upper (s.environment.choice s.settings userVariable)

/-- The text that the vault has for a variable, if a vault is named and may hold the variable. -/
def secret? (name : String) : Option String :=
  if s.vaultName = "" then none else if name ∈ knownVariables then s.vault.textFor s.userName name else none

/-- The secrets that have to be asked for: for each variable that is not set, those up to the first with a text. -/
def needed : List String :=
  if s.vaultName = "" then []
  else (knownVariables.filter (!s.environment.isSet ·)).flatMap fun name =>
    s.vault.upToText (secretNames s.userName name)

/-- The value of a variable after loading: the one it had, or else the vault's, or else that of the settings. -/
def value? (name : String) : Option String :=
  (s.environment.get? name).or ((s.secret? name).or (Settings.valueOf s.settings name))

/-- Everything was loaded: each variable has its value, and only the secrets that are needed were asked for. -/
structure Loaded (loading : Loading) : Prop where
  values : ∀ name, loading.environment.get? name = s.value? name
  asked : loading.asked = s.needed
  opened : loading.opened = if s.vaultName = "" then none else some (vaultUrl s.vaultName)

/-- What stops a loading: a secret that has to be asked for, or a setting, for a variable that is not set. -/
inductive Obstructs : Failure → Prop
  | secret {variableName name : String} {e : Failure} (named : s.vaultName ≠ "") (known : variableName ∈ knownVariables)
      (unset : s.environment.get? variableName = none)
      (asked : name ∈ s.vault.upToText (secretNames s.userName variableName))
      (stops : s.vault.Stops variableName name e) : Obstructs e
  | setting {name text : String} {flaw : VariableFlaw} (unset : s.environment.get? name = none)
      (mem : (name, some text) ∈ s.settings) (unfit : VariableFlaw.of? name text = some flaw) :
      Obstructs (.variable flaw)

theorem fromSources_ends (hnodup : (s.settings.map (·.1)).Nodup) :
    Load.Ends (Load.fromSources s.vault s.settings) ⟨s.environment, none, [], []⟩ fun r loading =>
      match r with
      | .ok () => s.Loaded loading
      | .error e => s.environment.Keeps loading.environment ∧ s.Obstructs e := by
  unfold Load.fromSources
  refine .bind (Load.chosen_ends ?_)
  dsimp only
  refine .bind (Load.chosen_ends ?_)
  dsimp only
  have hname : s.environment.choice s.settings vaultVariable = s.vaultName := rfl
  have huser : Text.upper (s.environment.choice s.settings userVariable) = s.userName := rfl
  rw [hname, huser]
  by_cases hnamed : s.vaultName = ""
  · rw [if_neg (not_not_intro hnamed)]
    refine (Load.fromSettings_ends hnodup _).mono ?_
    rintro (e | ⟨⟩) loading hq
    · obtain ⟨hkeeps, name, text, flaw, hmem, hunset, hflaw, rfl⟩ := hq
      exact ⟨hkeeps, .setting hunset hmem hflaw⟩
    · obtain ⟨hvalues, hasked, hopened⟩ := hq
      refine ⟨fun name => ?_, ?_, ?_⟩
      · rw [hvalues, value?, secret?, if_pos hnamed]
        rfl
      · rw [hasked, needed, if_pos hnamed]
      · rw [hopened, if_pos hnamed]
  · rw [if_pos hnamed]
    have hknown : knownVariables.Nodup := by decide
    refine .bind (.modify ?_)
    dsimp only
    refine .bind ((Load.fromVault_ends s.userName hknown _).mono ?_)
    rintro (e | ⟨⟩) loading₁ hq
    · obtain ⟨hkeeps, variableName, hmem, hunset, name, hasked, hstops⟩ := hq
      exact ⟨hkeeps, .secret hnamed hmem hunset hasked hstops⟩
    · obtain ⟨hvalues₁, hasked₁, hopened₁⟩ := hq
      have hkeeps : s.environment.Keeps loading₁.environment := by
        intro name value hv
        rw [hvalues₁, hv]
        rfl
      refine (Load.fromSettings_ends hnodup loading₁).mono ?_
      rintro (e | ⟨⟩) loading hq
      · obtain ⟨hkeeps', name, text, flaw, hmem, hunset, hflaw, rfl⟩ := hq
        exact ⟨hkeeps.trans hkeeps', .setting (hkeeps.unset hunset) hmem hflaw⟩
      · obtain ⟨hvalues, hasked, hopened⟩ := hq
        refine ⟨fun name => ?_, ?_, ?_⟩
        · rw [hvalues, hvalues₁, Option.or_assoc, value?, secret?, if_neg hnamed]
        · rw [hasked, hasked₁, needed, if_neg hnamed]
          rfl
        · rw [hopened, hopened₁, if_neg hnamed]

end Sources

theorem Load.nodup_of_settingsOf {file : Option (List UInt8)} {settings : Settings}
    (h : Load.settingsOf file = .ok settings) : (settings.map (·.1)).Nodup := by
  cases file with
  | none =>
      cases h
      exact List.nodup_nil
  | some bytes =>
      obtain ⟨text, -, rfl⟩ := Except.map_eq_ok.mp h
      exact Entries.nodup_ofList _

namespace Surroundings

theorem load_eq (s : Surroundings) : s.load = Load.fromAll s.vault s.settingsFile ⟨s.environment, none, [], []⟩ := by
  have hload : s.load = (Load.fromAll s.vault s.settingsFile >>= fun _ => pure ()) ⟨s.environment, none, [], []⟩ := rfl
  rw [hload, bind_pure_unit]

/-- A variable that was set stays as it was. Any other is what the first source that has something for it gives: the
vault for a known variable, if one is named, or else the settings; and only the secrets that are needed for that are
asked for. Nothing but an obstruction in the sources ends a loading early, and even then no variable that was set has
changed. -/
theorem load_precedence (s : Surroundings) :
    match Load.settingsOf s.settingsFile with
    | .error e => s.load = .error e ⟨s.environment, none, [], []⟩
    | .ok settings =>
      match s.load with
      | .ok () loading => Sources.Loaded ⟨s.environment, s.vault, settings⟩ loading
      | .error e loading =>
        s.environment.Keeps loading.environment ∧ Sources.Obstructs ⟨s.environment, s.vault, settings⟩ e := by
  have hload := load_eq s
  rw [Load.fromAll] at hload
  cases hsettings : Load.settingsOf s.settingsFile with
  | error e =>
      rw [hsettings] at hload
      exact hload
  | ok settings =>
      rw [hsettings] at hload
      have hends := Sources.fromSources_ends ⟨s.environment, s.vault, settings⟩ (Load.nodup_of_settingsOf hsettings)
      unfold Load.Ends at hends
      dsimp only at hends hload ⊢
      rw [← hload] at hends
      cases hrun : s.load with
      | ok _ loading =>
          rw [hrun] at hends
          exact hends
      | error e loading =>
          rw [hrun] at hends
          exact hends

end Surroundings

end SinkKeeper
