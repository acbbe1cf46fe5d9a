/-
Settings as they are written and read.

A section that is there is written as a table of its own, with an entry for each key that is
there.  The keys of a table are some fields of its schema in their order, so that reading the
table sets these fields and no other.  `parse_render` says that valid settings, written as text,
are read as themselves.
-/
import CallBridge.Config.Printer
import CallBridge.Config.Schema
import CallBridge.Proofs.WrittenDocuments

namespace CallBridge

namespace Config

open Toml (Datum PlainTable Value isBare renderTables parse?)

/-! ## Sections -/

/-- A table whose keys are fields of a schema. -/
def Schema.table {α : Type} (schema : Schema α) (name : String) (data : List (String × Datum))
    (hname : isBare name = true) (hbare : ∀ f ∈ schema.fields, isBare f = true)
    (hdistinct : schema.fields.Nodup) (hkeys : (data.map Prod.fst).Sublist schema.fields) :
    PlainTable where
  name := name
  entries := data
  bareName := hname
  bareKeys := fun _ he => hbare _ (hkeys.subset (List.mem_map_of_mem he))
  distinct := hdistinct.sublist hkeys

namespace CallSettings

def data (s : CallSettings) : List (String × Datum) :=
  (s.checkErrno.map fun b => ("check_errno", .flag b)).toList
    ++ (s.releaseLock.map fun b => ("release_lock", .flag b)).toList
    ++ (s.abi.map fun text => ("abi", .text text)).toList

theorem keys_data (s : CallSettings) : (s.data.map Prod.fst).Sublist callSchema.fields := by
  obtain ⟨checkErrno, releaseLock, abi⟩ := s
  cases checkErrno <;> cases releaseLock <;> cases abi <;> simp [data, callSchema]

def table (s : CallSettings) : PlainTable :=
  callSchema.table "call" s.data (by decide) (by decide) (by decide) s.keys_data

theorem render_table (s : CallSettings) :
    s.table.render = Toml.renderTable "call" s.entries := by
  obtain ⟨checkErrno, releaseLock, abi⟩ := s
  cases checkErrno <;> cases releaseLock <;> cases abi <;> rfl

theorem decode_table (s : CallSettings) : callSchema.decode (.table s.table.values) = .ok s := by
  obtain ⟨checkErrno, releaseLock, abi⟩ := s
  cases checkErrno <;> cases releaseLock <;> cases abi <;> rfl

end CallSettings

namespace CallbackSettings

def data (s : CallbackSettings) : List (String × Datum) :=
  (s.onExpired.map fun text => ("on_expired", .text text)).toList

theorem keys_data (s : CallbackSettings) : (s.data.map Prod.fst).Sublist callbackSchema.fields := by
  obtain ⟨onExpired⟩ := s
  cases onExpired <;> simp [data, callbackSchema]

def table (s : CallbackSettings) : PlainTable :=
  callbackSchema.table "callbacks" s.data (by decide) (by decide) (by decide) s.keys_data

theorem render_table (s : CallbackSettings) :
    s.table.render = Toml.renderTable "callbacks" s.entries := by
  obtain ⟨onExpired⟩ := s
  cases onExpired <;> rfl

theorem decode_table (s : CallbackSettings) :
    callbackSchema.decode (.table s.table.values) = .ok s := by
  obtain ⟨onExpired⟩ := s
  cases onExpired <;> rfl

end CallbackSettings

theorem paths_strings (texts : List String) : paths (.array (texts.map .string)) = .ok texts := by
  show List.mapM path (texts.map Value.string) = .ok texts
  induction texts with
  | nil => rfl
  | cons text texts ih =>
    rw [List.map_cons, List.mapM_cons, ih]
    rfl

namespace LoaderSettings

def data (s : LoaderSettings) : List (String × Datum) :=
  (s.searchPaths.map fun texts => ("search_paths", .texts texts)).toList

theorem keys_data (s : LoaderSettings) : (s.data.map Prod.fst).Sublist loaderSchema.fields := by
  obtain ⟨searchPaths⟩ := s
  cases searchPaths <;> simp [data, loaderSchema]

def table (s : LoaderSettings) : PlainTable :=
  loaderSchema.table "loader" s.data (by decide) (by decide) (by decide) s.keys_data

theorem render_table (s : LoaderSettings) :
    s.table.render = Toml.renderTable "loader" s.entries := by
  obtain ⟨searchPaths⟩ := s
  cases searchPaths <;> rfl

theorem decode_table (s : LoaderSettings) : loaderSchema.decode (.table s.table.values) = .ok s := by
  obtain ⟨searchPaths⟩ := s
  cases searchPaths with
  | none => rfl
  | some texts =>
    have htake : loaderSchema.take .empty "search_paths" (.array (texts.map .string)) =
        .ok ⟨some texts⟩ := by
      show (do return (⟨some (← paths (.array (texts.map .string)))⟩ : LoaderSettings)) = _
      rw [paths_strings]
      rfl
    show (loaderSchema.take .empty "search_paths" (.array (texts.map .string)) >>= pure) = _
    rw [htake]
    rfl

end LoaderSettings

/-! ## Settings -/

namespace Settings

/-- The tables that the settings are written as. -/
def tables (s : Settings) : List PlainTable :=
  (s.call.map CallSettings.table).toList ++ (s.callbacks.map CallbackSettings.table).toList
    ++ (s.loader.map LoaderSettings.table).toList

theorem names_tables (s : Settings) :
    (s.tables.map PlainTable.name).Sublist settingsSchema.fields := by
  obtain ⟨call, callbacks, loader⟩ := s
  cases call <;> cases callbacks <;> cases loader <;>
    simp [tables, settingsSchema, CallSettings.table, CallbackSettings.table, LoaderSettings.table,
      Schema.table]

theorem render_tables (s : Settings) : renderTables (s.tables.map PlainTable.render) = s.render := by
  obtain ⟨call, callbacks, loader⟩ := s
  cases call <;> cases callbacks <;> cases loader <;>
    simp [tables, render, CallSettings.render_table, CallbackSettings.render_table,
      LoaderSettings.render_table]

example : render ⟨some .empty, none, some ⟨some []⟩⟩ = "[call]\n\n[loader]\nsearch_paths = []\n" := by
  decide +kernel

theorem take_call (s : Settings) (c : CallSettings) :
    settingsSchema.take s "call" (.table c.table.values) = .ok { s with call := some c } := by
  show (do return { s with call := some (← callSchema.decode (.table c.table.values)) }) = _
  rw [CallSettings.decode_table]
  rfl

theorem take_callbacks (s : Settings) (c : CallbackSettings) :
    settingsSchema.take s "callbacks" (.table c.table.values) =
      .ok { s with callbacks := some c } := by
  show (do return { s with callbacks := some (← callbackSchema.decode (.table c.table.values)) }) = _
  rw [CallbackSettings.decode_table]
  rfl

theorem take_loader (s : Settings) (l : LoaderSettings) :
    settingsSchema.take s "loader" (.table l.table.values) = .ok { s with loader := some l } := by
  show (do return { s with loader := some (← loaderSchema.decode (.table l.table.values)) }) = _
  rw [LoaderSettings.decode_table]
  rfl

theorem ofEntries_tables (s : Settings) :
    settingsSchema.ofEntries (s.tables.map fun t => (t.name, .table t.values)) = .ok s := by
  have hcall : ∀ c : CallSettings, c.table.name = "call" := fun _ => rfl
  have hcallbacks : ∀ c : CallbackSettings, c.table.name = "callbacks" := fun _ => rfl
  have hloader : ∀ l : LoaderSettings, l.table.name = "loader" := fun _ => rfl
  have hempty : settingsSchema.empty = ⟨none, none, none⟩ := rfl
  obtain ⟨call, callbacks, loader⟩ := s
  cases call <;> cases callbacks <;> cases loader <;>
    simp [tables, Schema.ofEntries, hcall, hcallbacks, hloader, hempty, take_call, take_callbacks,
      take_loader, bind, Except.bind, pure, Except.pure]

theorem decode_render (s : Settings) : decode s.render = .ok s := by
  have hnodup : (s.tables.map PlainTable.name).Nodup :=
    List.Nodup.sublist s.names_tables (by decide)
  rw [decode, ← render_tables, Toml.parse?_renderTables hnodup]
  exact s.ofEntries_tables

end Settings

/-- Valid settings are read from their text as they are, and no other settings are written so. -/
theorem parse_render (file : String) (s : Settings) (hvalid : s.validate = .ok ()) :
    Settings.parse file s.render = .ok s ∧ ∀ other : Settings, other.render = s.render → other = s := by
  refine ⟨?_, fun other hsame => ?_⟩
  · rw [Settings.parse, Settings.decode_render]
    show (do s.validate; return s) = _
    rw [hvalid]
    rfl
  · have hother := other.decode_render
    rw [hsame, s.decode_render] at hother
    exact (Except.ok.inj hother).symm

/-- An absent key, an empty section, and search paths in every form that a string has. -/
def awkward : Settings where
  call := some ⟨none, some true, some "default"⟩
  callbacks := some .empty
  loader := some ⟨some ["", "it's\\", "\"", "'\"'", "\"\"\"'''\\", "a\r\nb\t", "\n", "\x00\x1b\x7f"]⟩

theorem parse_render_awkward :
    awkward.validate = .ok () ∧
      Settings.parse "ligature.toml" awkward.render = .ok awkward ∧
        ∀ other : Settings, other.render = awkward.render → other = awkward :=
  ⟨rfl, parse_render "ligature.toml" awkward rfl⟩

end Config

end CallBridge
