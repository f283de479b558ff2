import ScriptDesk.Text.Basic

namespace ScriptDesk

inductive Json (σ : Type) : Type
  | null : Json σ
  | bool : Bool → Json σ
  | number : Text → Json σ
  | string : σ → Json σ
  | array : List (Json σ) → Json σ
  | object : List (σ × Json σ) → Json σ

end ScriptDesk
