import BrowserPolicy.Grammar.Basic

namespace BrowserPolicy

namespace Grammar

def legacyFeatures : List (String × String) :=
  [("accelerometer", "accelerometer"),
    ("ambientLightSensor", "ambient-light-sensor"),
    ("autoplay", "autoplay"),
    ("battery", "battery"),
    ("camera", "camera"),
    ("displayCapture", "display-capture"),
    ("documentDomain", "document-domain"),
    ("documentWrite", "document-write"),
    ("encryptedMedia", "encrypted-media"),
    ("executionWhileNotRendered", "execution-while-not-rendered"),
    ("executionWhileOutOfViewport", "execution-while-out-of-viewport"),
    ("fontDisplayLateSwap", "font-display-late-swap"),
    ("fullscreen", "fullscreen"),
    ("geolocation", "geolocation"),
    ("gyroscope", "gyroscope"),
    ("layoutAnimations", "layout-animations"),
    ("legacyImageFormats", "legacy-image-formats"),
    ("loadingFrameDefaultEager", "loading-frame-default-eager"),
    ("magnetometer", "magnetometer"),
    ("microphone", "microphone"),
    ("midi", "midi"),
    ("navigationOverride", "navigation-override"),
    ("notifications", "notifications"),
    ("oversizedImages", "oversized-images"),
    ("payment", "payment"),
    ("pictureInPicture", "picture-in-picture"),
    ("serial", "serial"),
    ("speaker", "speaker"),
    ("syncScript", "sync-script"),
    ("syncXhr", "sync-xhr"),
    ("unoptimizedImages", "unoptimized-images"),
    ("unoptimizedLosslessImages", "unoptimized-lossless-images"),
    ("unoptimizedLossyImages", "unoptimized-lossy-images"),
    ("unsizedMedia", "unsized-media"),
    ("usb", "usb"),
    ("verticalScroll", "vertical-scroll"),
    ("vibrate", "vibrate"),
    ("vr", "vr"),
    ("wakeLock", "wake-lock"),
    ("xr", "xr")]

def permissions : Grammar where
  reserved := ["self", "src", "*", "none"]
  misquoted :=
    [⟨"'self'", "self", .bare⟩, ⟨"'none'", "none", .bare⟩, ⟨"'src'", "src", .bare⟩]
  keys := .unrestricted
  quoteRule := isDoubleQuoted
  wildcard := "*"
  noneKeyword := "none"
  entrySeparator := ", "
  valueSeparator := " "
  valueWrap := .parenthesized

def feature : Grammar where
  reserved := ["*", "'self'", "'none'", "'src'"]
  misquoted :=
    [⟨"self", "'self'", .singleQuoted⟩, ⟨"none", "'none'", .singleQuoted⟩,
      ⟨"src", "'src'", .singleQuoted⟩]
  keys := .listed legacyFeatures
  quoteRule := isBareOrigin
  wildcard := "*"
  noneKeyword := "'none'"
  entrySeparator := ";"
  valueSeparator := " "
  valueWrap := .bare

end Grammar

def Dialect.grammar : Dialect → Grammar
  | .permissions => .permissions
  | .feature => .feature

end BrowserPolicy
