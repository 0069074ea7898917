import MarketFeed.Environment
import MarketFeed.LogLevel
import MarketFeed.Text.Expansion

/-!
# Settings

Where the program keeps its data, and how much its loggers say.

* `Settings`          — the settings in effect.
* `Overlay`           — settings of one layer: what it leaves open stays as it was.
* `Settings.overlay`  — a layer laid over settings.
* `Settings.expand`   — the references and the tilde in the home directory replaced.
* `Settings.override` — what the command line asks for.
* `Settings.standard`, `Settings.standardHome` — the settings without any layer, and the home
                        directory among them.
-/

namespace MarketFeed

/-- The settings in effect: the home directory and the level of the command loggers. -/
structure Settings where
  home : Path
  logLevel : LogLevel
  deriving DecidableEq, Repr

/-- The settings of one layer, each of which may be left open. -/
structure Overlay where
  home : Option Path
  logLevel : Option LogLevel
  deriving DecidableEq, Repr

namespace Settings

/-- The two settings agree, home directories by components. -/
def agrees (a b : Settings) : Bool := a.home.agrees b.home && a.logLevel == b.logLevel

/-- The settings with a layer laid over them. -/
def overlay (s : Settings) (layer : Overlay) : Settings :=
  ⟨layer.home.getD s.home, layer.logLevel.getD s.logLevel⟩

/-- A path with its references and its tilde replaced; the path is taken as text for that. -/
def expandPath (e : Environment) (p : Path) : Path :=
  .ofString (Expansion.expand e.text? e.homeText? p.text)

/-- The settings with the references and the tilde in the home directory replaced. -/
def expand (e : Environment) (s : Settings) : Settings := { s with home := expandPath e s.home }

/-- The settings with a layer from the command line, whose home directory is expanded. -/
def override (e : Environment) (s : Settings) (layer : Overlay) : Settings :=
  match layer.home with
  -- without a new home directory the old one is not expanded a second time
  | some _ => (s.overlay layer).expand e
  | none => s.overlay layer

/-- The home directory without any layer: in that of the user, or in what a tilde stands for. -/
def standardHome (e : Environment) : Path :=
  match e.home? with
  | some home => home.child ".kfc"
  -- the tilde stays as it is too if nobody knows the user's home directory
  | none => .ofString "~/.kfc"

theorem standardHome_of_home? {e : Environment} {home : Path} (hHome : e.home? = some home) :
    standardHome e = home.child ".kfc" := by
  rw [standardHome, hHome]

/-- The settings without any layer. -/
def standard (e : Environment) : Settings := ⟨standardHome e, .standard⟩

/-! ## Laws -/

/-- The level of a layer counts if the layer has one. -/
@[simp] theorem logLevel_overlay (s : Settings) (layer : Overlay) :
    (s.overlay layer).logLevel = layer.logLevel.getD s.logLevel := rfl

@[simp] theorem home_overlay (s : Settings) (layer : Overlay) :
    (s.overlay layer).home = layer.home.getD s.home := rfl

/-- A layer that leaves everything open changes nothing. -/
theorem overlay_open (s : Settings) : s.overlay ⟨none, none⟩ = s := rfl

/-- The level is overridden as it is overlaid. -/
@[simp] theorem logLevel_override (e : Environment) (s : Settings) (layer : Overlay) :
    (s.override e layer).logLevel = layer.logLevel.getD s.logLevel := by
  unfold override
  split <;> rfl

end Settings

end MarketFeed
