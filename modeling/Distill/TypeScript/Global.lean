/-!
Names that are known without a declaration. Reading one of them has no effect, and neither has reading one of the listed
members.
-/
namespace Distill.TypeScript

namespace Global

/-- What every environment has. -/
def common : List String := [
  "Array", "Boolean", "Function", "Math", "Number", "Object", "RegExp", "String", "AbortController", "AbortSignal",
  "AggregateError", "ArrayBuffer", "BigInt", "DataView", "Date", "Error", "EvalError", "Event", "EventTarget",
  "Float32Array", "Float64Array", "Int16Array", "Int32Array", "Int8Array", "Intl", "JSON", "Map", "MessageChannel",
  "MessageEvent", "MessagePort", "Promise", "Proxy", "RangeError", "ReferenceError", "Reflect", "Set", "Symbol",
  "SyntaxError", "TextDecoder", "TextEncoder", "TypeError", "URIError", "URL", "URLSearchParams", "Uint16Array",
  "Uint32Array", "Uint8Array", "Uint8ClampedArray", "WeakMap", "WeakSet", "WebAssembly", "clearInterval",
  "clearTimeout", "console", "decodeURI", "decodeURIComponent", "encodeURI", "encodeURIComponent", "escape",
  "globalThis", "isFinite", "isNaN", "parseFloat", "parseInt", "queueMicrotask", "setInterval", "setTimeout",
  "unescape"]

/-- What browsers have, apart from what measures the layout or may be refused. -/
def browser : List String := [
  "CSSAnimation", "CSSFontFaceRule", "CSSImportRule", "CSSKeyframeRule", "CSSKeyframesRule", "CSSMediaRule",
  "CSSNamespaceRule", "CSSPageRule", "CSSRule", "CSSRuleList", "CSSStyleDeclaration", "CSSStyleRule",
  "CSSStyleSheet", "CSSSupportsRule", "CSSTransition", "AnalyserNode", "Animation", "AnimationEffect",
  "AnimationEvent", "AnimationPlaybackEvent", "AnimationTimeline", "Attr", "Audio", "AudioBuffer",
  "AudioBufferSourceNode", "AudioDestinationNode", "AudioListener", "AudioNode", "AudioParam",
  "AudioProcessingEvent", "AudioScheduledSourceNode", "BarProp", "BeforeUnloadEvent", "BiquadFilterNode", "Blob",
  "BlobEvent", "ByteLengthQueuingStrategy", "CDATASection", "CSS", "CanvasGradient", "CanvasPattern",
  "CanvasRenderingContext2D", "ChannelMergerNode", "ChannelSplitterNode", "CharacterData", "ClipboardEvent",
  "CloseEvent", "Comment", "CompositionEvent", "ConvolverNode", "CountQueuingStrategy", "Crypto",
  "CustomElementRegistry", "CustomEvent", "DOMException", "DOMImplementation", "DOMMatrix", "DOMMatrixReadOnly",
  "DOMParser", "DOMPoint", "DOMPointReadOnly", "DOMQuad", "DOMRect", "DOMRectList", "DOMRectReadOnly",
  "DOMStringList", "DOMStringMap", "DOMTokenList", "DataTransfer", "DataTransferItem", "DataTransferItemList",
  "DelayNode", "Document", "DocumentFragment", "DocumentTimeline", "DocumentType", "DragEvent",
  "DynamicsCompressorNode", "Element", "ErrorEvent", "EventSource", "File", "FileList", "FileReader", "FocusEvent",
  "FontFace", "FormData", "GainNode", "Gamepad", "GamepadButton", "GamepadEvent", "Geolocation",
  "GeolocationPositionError", "HTMLAllCollection", "HTMLAnchorElement", "HTMLAreaElement", "HTMLAudioElement",
  "HTMLBRElement", "HTMLBaseElement", "HTMLBodyElement", "HTMLButtonElement", "HTMLCanvasElement", "HTMLCollection",
  "HTMLDListElement", "HTMLDataElement", "HTMLDataListElement", "HTMLDetailsElement", "HTMLDirectoryElement",
  "HTMLDivElement", "HTMLDocument", "HTMLElement", "HTMLEmbedElement", "HTMLFieldSetElement", "HTMLFontElement",
  "HTMLFormControlsCollection", "HTMLFormElement", "HTMLFrameElement", "HTMLFrameSetElement", "HTMLHRElement",
  "HTMLHeadElement", "HTMLHeadingElement", "HTMLHtmlElement", "HTMLIFrameElement", "HTMLImageElement",
  "HTMLInputElement", "HTMLLIElement", "HTMLLabelElement", "HTMLLegendElement", "HTMLLinkElement", "HTMLMapElement",
  "HTMLMarqueeElement", "HTMLMediaElement", "HTMLMenuElement", "HTMLMetaElement", "HTMLMeterElement",
  "HTMLModElement", "HTMLOListElement", "HTMLObjectElement", "HTMLOptGroupElement", "HTMLOptionElement",
  "HTMLOptionsCollection", "HTMLOutputElement", "HTMLParagraphElement", "HTMLParamElement", "HTMLPictureElement",
  "HTMLPreElement", "HTMLProgressElement", "HTMLQuoteElement", "HTMLScriptElement", "HTMLSelectElement",
  "HTMLSlotElement", "HTMLSourceElement", "HTMLSpanElement", "HTMLStyleElement", "HTMLTableCaptionElement",
  "HTMLTableCellElement", "HTMLTableColElement", "HTMLTableElement", "HTMLTableRowElement",
  "HTMLTableSectionElement", "HTMLTemplateElement", "HTMLTextAreaElement", "HTMLTimeElement", "HTMLTitleElement",
  "HTMLTrackElement", "HTMLUListElement", "HTMLUnknownElement", "HTMLVideoElement", "HashChangeEvent", "Headers",
  "History", "IDBCursor", "IDBCursorWithValue", "IDBDatabase", "IDBFactory", "IDBIndex", "IDBKeyRange",
  "IDBObjectStore", "IDBOpenDBRequest", "IDBRequest", "IDBTransaction", "IDBVersionChangeEvent", "Image",
  "ImageData", "InputEvent", "IntersectionObserver", "IntersectionObserverEntry", "KeyboardEvent", "KeyframeEffect",
  "Location", "MediaCapabilities", "MediaElementAudioSourceNode", "MediaEncryptedEvent", "MediaError", "MediaList",
  "MediaQueryList", "MediaQueryListEvent", "MediaRecorder", "MediaSource", "MediaStream",
  "MediaStreamAudioDestinationNode", "MediaStreamAudioSourceNode", "MediaStreamTrack", "MediaStreamTrackEvent",
  "MimeType", "MimeTypeArray", "MouseEvent", "MutationEvent", "MutationObserver", "MutationRecord", "NamedNodeMap",
  "Navigator", "Node", "NodeFilter", "NodeIterator", "NodeList", "Notification", "OfflineAudioCompletionEvent",
  "Option", "OscillatorNode", "PageTransitionEvent", "Path2D", "Performance", "PerformanceEntry", "PerformanceMark",
  "PerformanceMeasure", "PerformanceNavigation", "PerformanceObserver", "PerformanceObserverEntryList",
  "PerformanceResourceTiming", "PerformanceTiming", "PeriodicWave", "Plugin", "PluginArray", "PointerEvent",
  "PopStateEvent", "ProcessingInstruction", "ProgressEvent", "PromiseRejectionEvent", "RTCCertificate",
  "RTCDTMFSender", "RTCDTMFToneChangeEvent", "RTCDataChannel", "RTCDataChannelEvent", "RTCIceCandidate",
  "RTCPeerConnection", "RTCPeerConnectionIceEvent", "RTCRtpReceiver", "RTCRtpSender", "RTCRtpTransceiver",
  "RTCSessionDescription", "RTCStatsReport", "RTCTrackEvent", "RadioNodeList", "Range", "ReadableStream", "Request",
  "ResizeObserver", "ResizeObserverEntry", "Response", "SVGAElement", "SVGAngle", "SVGAnimateElement",
  "SVGAnimateMotionElement", "SVGAnimateTransformElement", "SVGAnimatedAngle", "SVGAnimatedBoolean",
  "SVGAnimatedEnumeration", "SVGAnimatedInteger", "SVGAnimatedLength", "SVGAnimatedLengthList", "SVGAnimatedNumber",
  "SVGAnimatedNumberList", "SVGAnimatedPreserveAspectRatio", "SVGAnimatedRect", "SVGAnimatedString",
  "SVGAnimatedTransformList", "SVGAnimationElement", "SVGCircleElement", "SVGClipPathElement",
  "SVGComponentTransferFunctionElement", "SVGDefsElement", "SVGDescElement", "SVGElement", "SVGEllipseElement",
  "SVGFilterElement", "SVGForeignObjectElement", "SVGGElement", "SVGGeometryElement", "SVGGradientElement",
  "SVGGraphicsElement", "SVGImageElement", "SVGLength", "SVGLengthList", "SVGLineElement",
  "SVGLinearGradientElement", "SVGMPathElement", "SVGMarkerElement", "SVGMaskElement", "SVGMatrix",
  "SVGMetadataElement", "SVGNumber", "SVGNumberList", "SVGPathElement", "SVGPatternElement", "SVGPoint",
  "SVGPointList", "SVGPolygonElement", "SVGPolylineElement", "SVGPreserveAspectRatio", "SVGRadialGradientElement",
  "SVGRect", "SVGRectElement", "SVGSVGElement", "SVGScriptElement", "SVGSetElement", "SVGStopElement",
  "SVGStringList", "SVGStyleElement", "SVGSwitchElement", "SVGSymbolElement", "SVGTSpanElement",
  "SVGTextContentElement", "SVGTextElement", "SVGTextPathElement", "SVGTextPositioningElement", "SVGTitleElement",
  "SVGTransform", "SVGTransformList", "SVGUnitTypes", "SVGUseElement", "SVGViewElement", "Screen",
  "ScriptProcessorNode", "SecurityPolicyViolationEvent", "Selection", "ShadowRoot", "SourceBuffer",
  "SourceBufferList", "SpeechSynthesisEvent", "SpeechSynthesisUtterance", "StaticRange", "Storage", "StorageEvent",
  "StyleSheet", "StyleSheetList", "Text", "TextMetrics", "TextTrack", "TextTrackCue", "TextTrackCueList",
  "TextTrackList", "TimeRanges", "TrackEvent", "TransitionEvent", "TreeWalker", "UIEvent", "VTTCue", "ValidityState",
  "VisualViewport", "WaveShaperNode", "WebGLActiveInfo", "WebGLBuffer", "WebGLContextEvent", "WebGLFramebuffer",
  "WebGLProgram", "WebGLQuery", "WebGLRenderbuffer", "WebGLRenderingContext", "WebGLSampler", "WebGLShader",
  "WebGLShaderPrecisionFormat", "WebGLSync", "WebGLTexture", "WebGLUniformLocation", "WebKitCSSMatrix", "WebSocket",
  "WheelEvent", "Window", "Worker", "XMLDocument", "XMLHttpRequest", "XMLHttpRequestEventTarget",
  "XMLHttpRequestUpload", "XMLSerializer", "XPathEvaluator", "XPathExpression", "XPathResult", "XSLTProcessor",
  "alert", "atob", "blur", "btoa", "cancelAnimationFrame", "captureEvents", "close", "closed", "confirm",
  "customElements", "devicePixelRatio", "document", "event", "fetch", "find", "focus", "frameElement", "frames",
  "getComputedStyle", "getSelection", "history", "indexedDB", "isSecureContext", "length", "location", "locationbar",
  "matchMedia", "menubar", "moveBy", "moveTo", "name", "navigator", "onabort", "onafterprint", "onanimationend",
  "onanimationiteration", "onanimationstart", "onbeforeprint", "onbeforeunload", "onblur", "oncanplay",
  "oncanplaythrough", "onchange", "onclick", "oncontextmenu", "oncuechange", "ondblclick", "ondrag", "ondragend",
  "ondragenter", "ondragleave", "ondragover", "ondragstart", "ondrop", "ondurationchange", "onemptied", "onended",
  "onerror", "onfocus", "ongotpointercapture", "onhashchange", "oninput", "oninvalid", "onkeydown", "onkeypress",
  "onkeyup", "onlanguagechange", "onload", "onloadeddata", "onloadedmetadata", "onloadstart", "onlostpointercapture",
  "onmessage", "onmousedown", "onmouseenter", "onmouseleave", "onmousemove", "onmouseout", "onmouseover",
  "onmouseup", "onoffline", "ononline", "onpagehide", "onpageshow", "onpause", "onplay", "onplaying",
  "onpointercancel", "onpointerdown", "onpointerenter", "onpointerleave", "onpointermove", "onpointerout",
  "onpointerover", "onpointerup", "onpopstate", "onprogress", "onratechange", "onrejectionhandled", "onreset",
  "onresize", "onscroll", "onseeked", "onseeking", "onselect", "onstalled", "onstorage", "onsubmit", "onsuspend",
  "ontimeupdate", "ontoggle", "ontransitioncancel", "ontransitionend", "ontransitionrun", "ontransitionstart",
  "onunhandledrejection", "onunload", "onvolumechange", "onwaiting", "onwebkitanimationend",
  "onwebkitanimationiteration", "onwebkitanimationstart", "onwebkittransitionend", "onwheel", "open", "opener",
  "origin", "parent", "performance", "personalbar", "postMessage", "print", "prompt", "releaseEvents",
  "requestAnimationFrame", "resizeBy", "resizeTo", "screen", "scroll", "scrollBy", "scrollTo", "scrollbars", "self",
  "speechSynthesis", "status", "statusbar", "stop", "toolbar", "top", "webkitURL", "window"]

/-- The symbols that the language itself uses. -/
def symbols : List String := [
  "asyncDispose", "asyncIterator", "dispose", "hasInstance", "isConcatSpreadable", "iterator", "match", "matchAll",
  "replace", "search", "species", "split", "toPrimitive", "toStringTag", "unscopables"]

def objectMembers : List String := [
  "assign", "create", "defineProperties", "defineProperty", "entries", "freeze", "fromEntries",
  "getOwnPropertyDescriptor", "getOwnPropertyDescriptors", "getOwnPropertyNames", "getOwnPropertySymbols",
  "getPrototypeOf", "is", "isExtensible", "isFrozen", "isSealed", "keys", "preventExtensions", "seal",
  "setPrototypeOf", "values"]

def mathMembers : List String := [
  "E", "LN10", "LN2", "LOG10E", "LOG2E", "PI", "SQRT1_2", "SQRT2", "abs", "acos", "acosh", "asin", "asinh", "atan",
  "atan2", "atanh", "cbrt", "ceil", "clz32", "cos", "cosh", "exp", "expm1", "floor", "fround", "hypot", "imul",
  "log", "log10", "log1p", "log2", "max", "min", "pow", "random", "round", "sign", "sin", "sinh", "sqrt", "tan",
  "tanh", "trunc"]

def reflectMembers : List String := [
  "apply", "construct", "defineProperty", "deleteProperty", "get", "getOwnPropertyDescriptor", "getPrototypeOf",
  "has", "isExtensible", "ownKeys", "preventExtensions", "set", "setPrototypeOf"]

def jsonMembers : List String := [
  "parse", "stringify"]

def consoleMembers : List String := [
  "assert", "clear", "count", "countReset", "debug", "dir", "dirxml", "error", "group", "groupCollapsed", "groupEnd",
  "info", "log", "table", "time", "timeEnd", "timeLog", "trace", "warn"]

def prototypeMembers : List String := [
  "__defineGetter__", "__defineSetter__", "__lookupGetter__", "__lookupSetter__", "hasOwnProperty", "isPrototypeOf",
  "propertyIsEnumerable", "toLocaleString", "toString", "unwatch", "valueOf", "watch"]

/-- Whether a path of names leads to a symbol of the language. -/
def isSymbol (path : List String) : Bool :=
  match path with
  | ["Symbol", name] => symbols.contains name
  | _ => false

/-- Whether reading what a path of names leads to has no effect. -/
def isKnown (path : List String) : Bool :=
  match path with
  | [name] => common.contains name || browser.contains name
  | ["Object", name] => objectMembers.contains name
  | ["Object", "prototype", name] => prototypeMembers.contains name
  | ["Math", name] => mathMembers.contains name
  | ["Reflect", name] => reflectMembers.contains name
  | ["JSON", name] => jsonMembers.contains name
  | ["console", name] => consoleMembers.contains name
  | path => isSymbol path

end Global

end Distill.TypeScript
